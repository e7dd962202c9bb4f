import SqlJob.Decimal.Binary64

/-!
# Values

A field of a result is null, an integer, a floating-point number, a text or a sequence of bytes.
-/

namespace SqlJob

/-- One field of a result. -/
inductive Value where
  | null
  | int (n : Int64)
  | float (x : Float)
  | text (s : String)
  | bytes (bs : List UInt8)

namespace Value

/-- Whether the value is null. -/
def isNull : Value → Bool
  | null => true
  | _ => false

/-- The value as plans and reports show it; of bytes only their number is shown. -/
def display : Value → String
  | null => "NULL"
  | int n => toString n.toInt
  | float x => (Binary64.ofFloat x).display
  | text s => s
  | bytes bs => "<" ++ toString bs.length ++ " bytes>"

end Value

end SqlJob
