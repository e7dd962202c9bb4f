import SqlJob.Config

/-!
# Which layer an option comes from

A run starts with options that were written in layers, one over another. To look an option up in
them is to go through the layers from the highest to the lowest and to take the first value there is
(`Options.get?_forMode`): the mode of the run, the overrides, the section for the mode, the common
section, and what is built in for the mode (`Options.get?_builtinOptions`). The overrides are
written one over another too, so of several for a key the last one counts
(`Options.applyOverrides_eq`). A configuration file has none of them (`Config.overrides_of_load`).

A layer is written over those below it in the order of its names. That a name occurs once in a layer
makes the last value written for a name the only one (`Options.lookup_reverse_toList`).
-/

namespace SqlJob

open Text

/-! ## Layers one over another -/

/-- In a list in which every key occurs once it does not matter from which end a key is looked
up. -/
theorem lookup_reverse_of_pairwise_ne {entries : List (String × String)}
    (h : entries.Pairwise fun a b => a.1 ≠ b.1) (key : String) :
    entries.reverse.lookup key = entries.lookup key := by
  induction entries with
  | nil => rfl
  | cons e rest ih =>
    have ⟨hne, hrest⟩ := List.pairwise_cons.1 h
    rw [List.reverse_cons, List.lookup_append, ih hrest, Options.lookup_cons_eq,
      Options.lookup_cons_eq, List.lookup_nil]
    split
    · next heq =>
      -- The key of the first entry occurs in none of the others.
      have hnone : rest.lookup key = none := by
        rw [List.lookup_eq_none_iff]
        intro p hp
        simpa [heq] using hne p hp
      rw [hnone, Option.none_or]
    · rw [Option.or_none]

/-- No name occurs twice in a list in the order of the names. -/
theorem SortedKeys.pairwise_ne {entries : List (String × String)} (h : SortedKeys entries) :
    entries.Pairwise fun a b => a.1 ≠ b.1 := by
  refine List.Pairwise.imp ?_ h
  intro a b hlt heq
  exact String.lt_irrefl b.1 (heq ▸ hlt)

namespace Options

/-- Options give the same value for a name from either end of their list. -/
theorem lookup_reverse_toList (o : Options) (key : String) :
    o.toList.reverse.lookup key = o.get? key :=
  lookup_reverse_of_pairwise_ne o.sorted.pairwise_ne key

/-- A layer over options: what it does not name is as it is below. -/
theorem get?_extend_toList (o layer : Options) (key : String) :
    (o.extend layer.toList).get? key = (layer.get? key).or (o.get? key) := by
  rw [get?_extend, lookup_reverse_toList]

/-- A list of options with distinct names, set one after another. -/
theorem get?_ofList {entries : List (String × String)}
    (h : entries.Pairwise fun a b => a.1 ≠ b.1) (key : String) :
    (ofList entries).get? key = entries.lookup key := by
  rw [ofList, get?_extend, lookup_reverse_of_pairwise_ne h]
  exact Option.or_none

/-- What is built in for a mode: in streaming mode the options of that mode, and in both modes the
common ones. -/
theorem get?_builtinOptions (mode : Mode) (key : String) :
    (builtinOptions mode).get? key =
      (if mode.isStreaming then builtinStreaming.lookup key else none).or
        (builtinCommon.lookup key) := by
  have hcommon : builtinCommon.Pairwise fun a b => a.1 ≠ b.1 := by decide
  have hstreaming : builtinStreaming.Pairwise fun a b => a.1 ≠ b.1 := by decide
  cases mode with
  | streaming =>
    simp only [builtinOptions, Mode.isStreaming, if_true]
    rw [get?_extend, get?_ofList hcommon, lookup_reverse_of_pairwise_ne hstreaming]
  | batch =>
    simpa [builtinOptions, Mode.isStreaming] using get?_ofList hcommon key

/-- An option of a run is the one of the highest layer that has it. -/
theorem get?_forMode (mode : Mode) (session : SessionDefaults) (key : String) :
    (forMode mode session).get? key =
      if key = runtimeModeKey then some mode.optionValue
      else (session.overrides.get? key).or <| ((session.forMode mode).get? key).or <|
        (session.common.get? key).or <| (builtinOptions mode).get? key := by
  simp only [forMode, get?_set, get?_extend_toList]

/-- The options of a run in a mode do not depend on the section for the other mode. -/
theorem forMode_congr {mode : Mode} {session other : SessionDefaults}
    (hcommon : other.common = session.common)
    (hsection : other.forMode mode = session.forMode mode)
    (hoverrides : other.overrides = session.overrides) :
    forMode mode other = forMode mode session := by
  simp only [forMode, hcommon, hsection, hoverrides]

end Options

/-! ## Overrides -/

/-- The trimmed texts before and after the first equals sign of an override. -/
def overrideOf? (entry : String) : Option (String × String) :=
  (cutAt '=' entry.toList).map fun p => (.ofList (trim p.1), .ofList (trim p.2))

/-- An override is read as its two parts exactly if it has them and the key is not empty. -/
theorem readOverride_eq_ok_iff {entry : String} {setting : String × String} :
    readOverride entry = .ok setting ↔ overrideOf? entry = some setting ∧ setting.1 ≠ "" := by
  unfold readOverride overrideOf?
  cases cutAt '=' entry.toList with
  | none => simp
  | some p =>
    simp only [Option.map_some, Option.some.injEq]
    split
    · next hkey =>
      refine ⟨nofun, ?_⟩
      rintro ⟨rfl, hne⟩
      exact absurd (by rw [hkey]) hne
    · next hkey =>
      rw [Except.ok.injEq]
      refine ⟨?_, And.left⟩
      rintro rfl
      exact ⟨rfl, fun h => hkey (String.ofList_eq_empty_iff.mp h)⟩

namespace Options

/-- Overrides are accepted exactly if each of them has a key before an equals sign. -/
theorem applyOverrides_eq_none_iff {o : Options} {entries : List String} :
    (o.applyOverrides entries).2 = none ↔
      ∀ entry ∈ entries, ∃ setting, overrideOf? entry = some setting ∧ setting.1 ≠ "" := by
  induction entries generalizing o with
  | nil => simp [applyOverrides]
  | cons entry entries ih =>
    simp only [applyOverrides, List.forall_mem_cons, ← readOverride_eq_ok_iff]
    cases readOverride entry with
    | error e => simp
    | ok setting =>
      simp only [ih, ← readOverride_eq_ok_iff, Except.ok.injEq, exists_eq', true_and]

/-- Overrides that are accepted are set one after another. -/
theorem applyOverrides_eq {o : Options} {entries : List String}
    (h : (o.applyOverrides entries).2 = none) :
    (o.applyOverrides entries).1 = o.extend (entries.filterMap overrideOf?) := by
  induction entries generalizing o with
  | nil => rfl
  | cons entry entries ih =>
    simp only [applyOverrides] at h ⊢
    cases hread : readOverride entry with
    | error e => simp [hread] at h
    | ok setting =>
      simp only [hread] at h ⊢
      rw [List.filterMap_cons_some (readOverride_eq_ok_iff.mp hread).1]
      exact ih h

end Options

namespace Config

/-- The sections of a file come without overrides. -/
theorem overrides_of_sessionOf {v : Toml} {session : SessionDefaults}
    (h : sessionOf v = some session) : session.overrides = .empty := by
  unfold sessionOf at h
  split at h
  · simp only [bind, Option.bind_eq_some_iff, Option.some.injEq] at h
    obtain ⟨common, -, streaming, -, batch, -, rfl⟩ := h
    rfl
  · cases h

/-- A document holds no overrides. -/
theorem overrides_of_ofEntries {entries : List (String × Toml)} {c : Config}
    (h : ofEntries entries = some c) : c.session.overrides = .empty := by
  simp only [ofEntries, bind, Option.bind_eq_some_iff, Option.some.injEq] at h
  obtain ⟨engine, -, session, hsession, rfl⟩ := h
  cases hv : entries.lookup "session" with
  | none =>
    rw [hv] at hsession
    obtain rfl : {} = session := Option.some.inj hsession
    rfl
  | some v =>
    rw [hv] at hsession
    exact overrides_of_sessionOf hsession

/-- A configuration file holds no overrides, whatever is in it. -/
theorem overrides_of_load {t : FileTree} {path : String} {c : Config}
    (h : load t path = .ok c) : c.session.overrides = .empty := by
  unfold load at h
  split at h
  · obtain rfl : {} = c := Except.ok.inj h
    rfl
  · split at h
    · cases h
    · unfold ofText at h
      split at h
      · cases h
      · split at h
        · cases h
        · next hentries =>
          obtain rfl := Except.ok.inj h
          exact overrides_of_ofEntries hentries

end Config

/-! ## The order of precedence -/

/-- An option of a run is the mode of the run if it is the runtime mode, and else comes from the
first of these that has it: the overrides, of which the last one counts, the section for the mode,
the common section, and what is built in for the mode. Nothing but these counts, the run is in its
mode, and no file has overrides. -/
theorem option_precedence (engine : EngineSettings) (common streaming batch : Options)
    (entries : List String) {c : Config}
    (h : Config.applyOverrides ⟨engine, { common, streaming, batch }⟩ entries = (c, none))
    (mode : Mode) :
    (∀ key, (Options.forMode mode c.session).get? key =
      if key = runtimeModeKey then some mode.optionValue
      else ((entries.filterMap overrideOf?).reverse.lookup key).or <|
        (match mode with
          | .streaming => streaming.get? key
          | .batch => batch.get? key).or <|
        (common.get? key).or <| (builtinOptions mode).get? key) ∧
    (∀ session : SessionDefaults, session.common = common →
      (match mode with
        | .streaming => session.streaming = streaming
        | .batch => session.batch = batch) →
      session.overrides = c.session.overrides →
      Options.forMode mode session = Options.forMode mode c.session) ∧
    (Options.forMode mode c.session).mode = mode ∧
    ∀ (t : FileTree) (path : String) (loaded : Config),
      Config.load t path = .ok loaded → loaded.session.overrides = .empty := by
  obtain ⟨rfl, hnone⟩ := Prod.mk.inj h
  refine ⟨fun key => ?_, fun session hcommon hsection hoverrides => ?_,
    Options.mode_forMode mode _, fun t path loaded => Config.overrides_of_load⟩
  · -- A configuration as it is read has no overrides, so these entries are all there are.
    have hoverrides : ∀ key, (Options.empty.applyOverrides entries).1.get? key =
        (entries.filterMap overrideOf?).reverse.lookup key := by
      intro key
      rw [Options.applyOverrides_eq hnone, Options.get?_extend]
      exact Option.or_none
    rw [Options.get?_forMode, hoverrides]
    cases mode <;> rfl
  · refine Options.forMode_congr hcommon ?_ hoverrides
    cases mode <;> exact hsection

/-- The last of two overrides for a key stands above the section for the mode, and that above the
common section. -/
theorem option_precedence_overlapping :
    let session : SessionDefaults := {
      common := .ofList [("a", "common"), ("b", "common"), ("restart-strategy", "common"),
        (runtimeModeKey, "streaming")]
      streaming := .ofList [("c", "streaming")]
      batch := .ofList [("a", "batch"), ("b", "batch")] }
    let entries := [" a = 1", "a = 2 = 3 ", "execution.runtime-mode = streaming"]
    ∃ c, Config.applyOverrides ⟨{}, session⟩ entries = (c, none) ∧
      ["a", "b", "c", "restart-strategy", "table.local-time-zone", runtimeModeKey].map
        (Options.forMode .batch c.session).get? =
        [some "2 = 3", some "batch", none, some "common", some "+08:00", some "batch"] := by
  intro session entries
  obtain ⟨c, hc⟩ : ∃ c, Config.applyOverrides ⟨{}, session⟩ entries = (c, none) := ⟨_, rfl⟩
  have hlookup := (option_precedence {} _ _ _ _ hc .batch).1
  refine ⟨c, hc, ?_⟩
  simp only [List.map_cons, List.map_nil, hlookup]
  decide

end SqlJob
