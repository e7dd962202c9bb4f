import SqlJob.Proofs.Session.Precedence
import SqlJob.Proofs.Text.Pieces

/-!
# Overrides up to the first bad one

A list of overrides is applied entry by entry until one is bad. What that means for an entry is said
without the reader: it is cut at its first equals sign (`CutAtEquals`), a good one gives the trimmed
text before it the trimmed text behind it (`Gives`), and a bad one has no equals sign or no key
(`IsBad`, with the words of the failure). The reader tells the same entries apart
(`readOverride_eq_ok_iff_gives`, `isBad_of_readOverride`).

`Options.exists_applyOverrides` is the induction over the entries, from any options on: those before
the first bad entry are set, and the list stops there. Nothing but the options that are built up is
carried from one entry to the next, so a list is applied as its parts are, one after another
(`Options.applyOverrides_append`).
-/

namespace SqlJob

open Text

/-! ## Entries -/

/-- The texts before and behind the first equals sign of an entry. -/
structure CutAtEquals (entry before behind : String) : Prop where
  /-- The entry is both texts with an equals sign between them. -/
  eq_append : entry = before ++ "=" ++ behind
  /-- No equals sign comes earlier. -/
  notMem : '=' ∉ before.toList

/-- A good entry gives a key its value: the trimmed texts before and behind its first equals sign,
the first of which is not empty. -/
inductive Gives : String → String × String → Prop
  | mk {entry before behind : String} (h : CutAtEquals entry before behind)
      (hkey : trimmed before ≠ "") : Gives entry (trimmed before, trimmed behind)

/-- A bad entry, with the failure that names it and says what is missing. -/
inductive IsBad : String → Failure → Prop
  /-- There is no equals sign. -/
  | noEquals {entry : String} (h : '=' ∉ entry.toList) :
      IsBad entry ⟨.config, "Invalid --set '" ++ entry ++ "'. Expected KEY=VALUE"⟩
  /-- There is no key before the first equals sign. -/
  | emptyKey {entry before behind : String} (h : CutAtEquals entry before behind)
      (hkey : trimmed before = "") :
      IsBad entry ⟨.config, "Invalid --set '" ++ entry ++ "'. Key must not be empty"⟩

/-- A cut at the first equals sign, as the reader makes it. -/
theorem cutAt_toList_iff {entry : String} {p : List Char × List Char} :
    cutAt '=' entry.toList = some p ↔ CutAtEquals entry (.ofList p.1) (.ofList p.2) := by
  obtain ⟨before, behind⟩ := p
  have happend : entry = .ofList before ++ "=" ++ .ofList behind ↔
      entry.toList = before ++ '=' :: behind := by
    rw [← String.toList_inj]
    simp
  rw [cutAt_eq_some_iff, ← happend]
  constructor
  · rintro ⟨heq, hnot⟩
    exact ⟨heq, by simpa using hnot⟩
  · rintro ⟨heq, hnot⟩
    exact ⟨heq, by simpa using hnot⟩

/-- The reader takes a good entry for what it gives. -/
theorem readOverride_eq_ok_iff_gives {entry : String} {setting : String × String} :
    readOverride entry = .ok setting ↔ Gives entry setting := by
  rw [readOverride_eq_ok_iff, overrideOf?, Option.map_eq_some_iff]
  constructor
  · rintro ⟨⟨p, hcut, rfl⟩, hkey⟩
    have hgives := Gives.mk (cutAt_toList_iff.mp hcut) (by simpa [trimmed] using hkey)
    simpa [trimmed] using hgives
  · intro hgives
    obtain @⟨before, behind, hcut, hkey⟩ := hgives
    have hcut' : cutAt '=' entry.toList = some (before.toList, behind.toList) :=
      cutAt_toList_iff.mpr (by simpa using hcut)
    exact ⟨⟨_, hcut', rfl⟩, hkey⟩

/-- An entry sets a key exactly if there is one before its first equals sign. -/
theorem exists_overrideOf?_iff {entry : String} :
    (∃ setting, overrideOf? entry = some setting ∧ setting.1 ≠ "") ↔
      ∃ before behind, CutAtEquals entry before behind ∧ trimmed before ≠ "" := by
  simp only [← readOverride_eq_ok_iff, readOverride_eq_ok_iff_gives]
  constructor
  · rintro ⟨_, ⟨hcut, hkey⟩⟩
    exact ⟨_, _, hcut, hkey⟩
  · rintro ⟨before, behind, hcut, hkey⟩
    exact ⟨_, .mk hcut hkey⟩

/-- The reader refuses bad entries only, and says what is wrong with them. -/
theorem isBad_of_readOverride {entry : String} {e : OverrideError}
    (h : readOverride entry = .error e) : IsBad entry e.toFailure := by
  unfold readOverride at h
  split at h
  · next hcut =>
    obtain rfl := Except.error.inj h
    refine .noEquals fun hmem => ?_
    simp [cutAt, hmem] at hcut
  · next before behind hcut =>
    split at h
    · next hkey =>
      obtain rfl := Except.error.inj h
      exact .emptyKey (cutAt_toList_iff.mp hcut) (by simp [trimmed, hkey])
    · cases h

/-! ## Lists of entries -/

/-- Entries that are left, and what is said of them: nothing if there is none, and of others the
failure of the first one, which is bad. -/
inductive StopsAt : List String → Option Failure → Prop
  | done : StopsAt [] none
  | bad {entry : String} {failure : Failure} (h : IsBad entry failure) (rest : List String) :
      StopsAt (entry :: rest) (some failure)

namespace Options

/-- The entries before the first bad one are set in turn, and the application stops there. -/
theorem exists_applyOverrides (o : Options) (entries : List String) :
    ∃ good settings rest, entries = good ++ rest ∧ List.Forall₂ Gives good settings ∧
      (o.applyOverrides entries).1 = o.extend settings ∧
      StopsAt rest ((o.applyOverrides entries).2.map OverrideError.toFailure) := by
  induction entries generalizing o with
  | nil => exact ⟨[], [], [], rfl, .nil, rfl, .done⟩
  | cons entry entries ih =>
    simp only [applyOverrides]
    cases hread : readOverride entry with
    | error e =>
      exact ⟨[], [], entry :: entries, rfl, .nil, rfl, .bad (isBad_of_readOverride hread) entries⟩
    | ok setting =>
      obtain ⟨good, settings, rest, rfl, hgood, hset, hstop⟩ := ih (o.set setting.1 setting.2)
      exact ⟨entry :: good, setting :: settings, rest, rfl,
        .cons (readOverride_eq_ok_iff_gives.mp hread) hgood, hset, hstop⟩

/-- A list behind another one is applied to what the first one leaves, unless that has stopped. -/
theorem applyOverrides_append (o : Options) (first others : List String) :
    o.applyOverrides (first ++ others) =
      if (o.applyOverrides first).2.isSome then o.applyOverrides first
      else (o.applyOverrides first).1.applyOverrides others := by
  induction first generalizing o with
  | nil => rfl
  | cons entry first ih =>
    cases hread : readOverride entry with
    | error e => simp [applyOverrides, hread]
    | ok setting => simpa [applyOverrides, hread] using ih (o.set setting.1 setting.2)

end Options

/-- **Overrides apply up to the first bad entry.** They are accepted exactly if every entry has a key
before its first equals sign. The entries before the first bad one are set in their order, so that of
two for a key the later one counts, and nothing else in the configuration changes; the failure names
that entry and says what it lacks. A list behind another one that is accepted is applied to what the
first one leaves. -/
theorem applyOverrides_upToFirstBad (c : Config) (entries : List String) :
    ((c.applyOverrides entries).2 = none ↔
      ∀ entry ∈ entries, ∃ before behind, CutAtEquals entry before behind ∧
        trimmed before ≠ "") ∧
    (∃ good settings rest, entries = good ++ rest ∧ List.Forall₂ Gives good settings ∧
      StopsAt rest ((c.applyOverrides entries).2.map OverrideError.toFailure) ∧
      (c.applyOverrides entries).1 =
        { c with session.overrides := c.session.overrides.extend settings } ∧
      ∀ key, (c.applyOverrides entries).1.session.overrides.get? key =
        (settings.reverse.lookup key).or (c.session.overrides.get? key)) ∧
    ∀ others, c.applyOverrides (entries ++ others) =
      if (c.applyOverrides entries).2.isSome then c.applyOverrides entries
      else (c.applyOverrides entries).1.applyOverrides others := by
  refine ⟨?_, ?_, fun others => ?_⟩
  · simp only [← exists_overrideOf?_iff]
    exact Options.applyOverrides_eq_none_iff
  · obtain ⟨good, settings, rest, hentries, hgood, hset, hstop⟩ :=
      c.session.overrides.exists_applyOverrides entries
    refine ⟨good, settings, rest, hentries, hgood, hstop, ?_, fun key => ?_⟩
    · simp only [Config.applyOverrides, hset]
    · rw [← Options.get?_extend, ← hset]
      rfl
  · by_cases hstop : (c.session.overrides.applyOverrides entries).2.isSome
    · simp [Config.applyOverrides, Options.applyOverrides_append, hstop]
    · simp [Config.applyOverrides, Options.applyOverrides_append, hstop]

end SqlJob
