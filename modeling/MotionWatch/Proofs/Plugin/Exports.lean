import MotionWatch.Plugin.External

/-!
# The names that are found in a library

Before a library is loaded, its symbol tables are searched for the functions that are wanted. The
search takes every symbol that has a name, also one that the library only refers to and that another
library has to provide.

* `Elf.Mentions`, `Elf.Defines`: a name is that of a symbol, or of one that is in the file itself.
* `Lists`, `Judges`: what a list of names and what a check say of a property of names.
* `mem_sortNames`, `pairwise_sortNames`: sorting keeps the names and removes duplicates.
* `mem_exportsWithPrefix`, `judges_checkEntryPoints`: names that are mentioned are found.
* `lists_defines_iff`: when these are the names that are defined.
-/

namespace MotionWatch.Plugin

/-! ## What is asked about a library -/

/-- Some symbol in one of the tables has the name. -/
def Elf.Mentions (e : Elf) (name : String) : Prop :=
  ∃ t ∈ [e.dynamic, e.static], ∃ s ∈ t.symbols, t.strings.get? s.name = some name

/-- Some symbol that is in a section of the file itself has the name. -/
def Elf.Defines (e : Elf) (name : String) : Prop :=
  ∃ t ∈ [e.dynamic, e.static], ∃ s ∈ t.symbols,
    s.definedIn ≠ 0 ∧ t.strings.get? s.name = some name

instance (e : Elf) : DecidablePred e.Mentions := fun name =>
  inferInstanceAs (Decidable (∃ t ∈ [e.dynamic, e.static], ∃ s ∈ t.symbols,
    t.strings.get? s.name = some name))

instance (e : Elf) : DecidablePred e.Defines := fun name =>
  inferInstanceAs (Decidable (∃ t ∈ [e.dynamic, e.static], ∃ s ∈ t.symbols,
    s.definedIn ≠ 0 ∧ t.strings.get? s.name = some name))

/-- These are the names that have a property and start in a certain way, each of them once and in
order. -/
structure Lists (P : String → Prop) (start : String) (names : List String) : Prop where
  increasing : names.Pairwise (· < ·)
  mem_iff : ∀ name, name ∈ names ↔ start.toList <+: name.toList ∧ P name

/-- A check finds out whether all wanted names have a property. If not, it tells which of them have
it not, in the order in which they are wanted. -/
structure Judges (P : String → Prop) [DecidablePred P] (path : String) (wanted : List String)
    (result : Except PluginError Unit) : Prop where
  passes : result = .ok () ↔ ∀ name ∈ wanted, P name
  fails : (∃ name ∈ wanted, ¬P name) →
    result = .error (.missingExports path (wanted.filter fun name => ¬P name))

variable {e : Elf} {name start path : String} {names wanted : List String}

/-! ## Sorted names -/

theorem mem_insertName {x : String} : x ∈ insertName name names ↔ x = name ∨ x ∈ names := by
  fun_induction insertName name names with
  | case1 => exact List.mem_cons
  | case2 rest =>
    exact ⟨.inr, fun h => h.elim (fun hx => hx ▸ List.mem_cons_self) id⟩
  | case3 n rest _ _ => exact List.mem_cons
  | case4 n rest _ _ ih => rw [List.mem_cons, ih, List.mem_cons, or_left_comm]

theorem pairwise_insertName (h : names.Pairwise (· < ·)) :
    (insertName name names).Pairwise (· < ·) := by
  fun_induction insertName name names with
  | case1 => exact List.pairwise_singleton ..
  | case2 rest => exact h
  | case3 n rest _ hlt =>
    refine List.pairwise_cons.mpr ⟨fun x hx => ?_, h⟩
    obtain rfl | hx := List.mem_cons.mp hx
    · exact hlt
    · exact String.lt_trans hlt ((List.pairwise_cons.mp h).1 x hx)
  | case4 n rest hne hnlt ih =>
    obtain ⟨hless, hrest⟩ := List.pairwise_cons.mp h
    refine List.pairwise_cons.mpr ⟨fun x hx => ?_, ih hrest⟩
    obtain rfl | hx := mem_insertName.mp hx
    · exact Std.lt_of_le_of_ne (String.not_lt.mp hnlt) (Ne.symm hne)
    · exact hless x hx

theorem mem_sortNames : name ∈ sortNames names ↔ name ∈ names := by
  induction names with
  | nil => exact Iff.rfl
  | cons n names ih =>
    show name ∈ insertName n (sortNames names) ↔ _
    rw [mem_insertName, ih, List.mem_cons]

/-- **Sorted names are strictly increasing**, so none of them comes twice. -/
theorem pairwise_sortNames (names : List String) : (sortNames names).Pairwise (· < ·) := by
  induction names with
  | nil => exact .nil
  | cons n names ih => exact pairwise_insertName ih

/-! ## Names that are found -/

theorem SymbolTable.mem_map_named {t : SymbolTable} : name ∈ t.named.map Prod.snd ↔
    ∃ s ∈ t.symbols, t.strings.get? s.name = some name := by
  simp [SymbolTable.named]

theorem Elf.mem_names : name ∈ e.names ↔ e.Mentions name := by
  rw [Elf.names, List.map_append, List.mem_append, SymbolTable.mem_map_named,
    SymbolTable.mem_map_named]
  simp [Elf.Mentions]

theorem Elf.Defines.mentions (h : e.Defines name) : e.Mentions name := by
  obtain ⟨t, ht, s, hs, -, hname⟩ := h
  exact ⟨t, ht, s, hs, hname⟩

theorem mem_exportsWithPrefix : name ∈ e.exportsWithPrefix start ↔
    start.toList <+: name.toList ∧ e.Mentions name := by
  rw [Elf.exportsWithPrefix, mem_sortNames, List.mem_filter, Elf.mem_names,
    List.isPrefixOf_iff_prefix, and_comm]

theorem lists_exportsWithPrefix (e : Elf) (start : String) :
    Lists e.Mentions start (e.exportsWithPrefix start) :=
  ⟨pairwise_sortNames _, fun _ => mem_exportsWithPrefix⟩

/-! ## Functions that are wanted -/

theorem checkEntryPoints_eq : checkEntryPoints path (.other (some e)) wanted =
      if ∀ name ∈ wanted, e.Mentions name then .ok ()
      else .error (.missingExports path (wanted.filter fun name => ¬e.Mentions name)) := by
  have hfound (name : String) :
      (e.exportsWithPrefix "").contains name = decide (e.Mentions name) := by
    rw [Bool.eq_iff_iff, List.contains_iff_mem, mem_exportsWithPrefix, decide_eq_true_iff]
    exact and_iff_right List.nil_prefix
  have hnames : PluginFile.exportsWithPrefix "" (.other (some e)) =
      some (e.exportsWithPrefix "") := rfl
  unfold checkEntryPoints
  rw [hnames]
  simp only [hfound, List.isEmpty_iff, List.filter_eq_nil_iff, decide_not, Bool.not_eq_true',
    decide_eq_false_iff_not, Decidable.not_not]

/-- A check finds the names that are mentioned. -/
theorem judges_checkEntryPoints (e : Elf) (path : String) (wanted : List String) :
    Judges e.Mentions path wanted (checkEntryPoints path (.other (some e)) wanted) := by
  rw [checkEntryPoints_eq]
  constructor
  · split
    · next hall => exact iff_of_true rfl hall
    · next hall => exact iff_of_false nofun hall
  · rintro ⟨name, hmem, hnot⟩
    exact if_neg fun hall => hnot (hall name hmem)

/-- One check finds out about two properties if the wanted names that have the one have the
other. -/
theorem Judges.imp_iff {P Q : String → Prop} [DecidablePred P] [DecidablePred Q]
    {result : Except PluginError Unit} (h : Judges P path wanted result)
    (himp : ∀ name, Q name → P name) :
    Judges Q path wanted result ↔ ∀ name ∈ wanted, P name → Q name := by
  constructor
  · intro h' name hmem hP
    refine Decidable.byContradiction fun hQ => ?_
    have hmissing := h'.fails ⟨name, hmem, hQ⟩
    have hother : ∃ name ∈ wanted, ¬P name := by
      refine Decidable.byContradiction fun hnone => ?_
      rw [h.passes.mpr fun name hmem => Decidable.byContradiction fun hnot =>
        hnone ⟨name, hmem, hnot⟩] at hmissing
      cases hmissing
    rw [h.fails hother] at hmissing
    -- The name is told by one of the lists and not by the other.
    have hlists := (PluginError.missingExports.inj (Except.error.inj hmissing)).2
    have hin : name ∈ wanted.filter fun name => ¬Q name :=
      List.mem_filter.mpr ⟨hmem, decide_eq_true hQ⟩
    rw [← hlists] at hin
    exact of_decide_eq_true (List.mem_filter.mp hin).2 hP
  · intro hsame
    have hboth : ∀ name ∈ wanted, P name ↔ Q name :=
      fun name hmem => ⟨hsame name hmem, himp name⟩
    constructor
    · exact h.passes.trans (forall₂_congr hboth)
    · rintro ⟨name, hmem, hQ⟩
      rw [h.fails ⟨name, hmem, fun hP => hQ (hsame name hmem hP)⟩]
      congr 2
      refine List.filter_congr fun name hmem => ?_
      simp only [hboth name hmem]

/-- **Which names are found in a library.** They are strictly increasing and are all the names with
the given start that it mentions; these are the names that it defines if it defines every name with
that start that it mentions, and only then. A check for wanted functions passes if all of them are
mentioned, and else tells those that are not, in the order in which they are wanted. It does so for
the functions that are defined if and only if every wanted function that is mentioned is defined. -/
theorem lists_defines_iff (e : Elf) (start : String) :
    Lists e.Mentions start (e.exportsWithPrefix start) ∧
    (Lists e.Defines start (e.exportsWithPrefix start) ↔
      ∀ name, start.toList <+: name.toList → e.Mentions name → e.Defines name) ∧
    PluginFile.exportsWithPrefix start (.other (some e)) = some (e.exportsWithPrefix start) ∧
    ∀ path wanted, let result := checkEntryPoints path (.other (some e)) wanted
      Judges e.Mentions path wanted result ∧
      (Judges e.Defines path wanted result ↔
        ∀ name ∈ wanted, e.Mentions name → e.Defines name) := by
  have hlists := lists_exportsWithPrefix e start
  refine ⟨hlists, ⟨fun h name hstart hmentions => ?_, fun h => ⟨hlists.increasing, fun name => ?_⟩⟩,
    rfl, fun path wanted => ?_⟩
  · exact ((h.mem_iff name).mp ((hlists.mem_iff name).mpr ⟨hstart, hmentions⟩)).2
  · rw [hlists.mem_iff]
    exact and_congr_right fun hstart => ⟨h name hstart, Elf.Defines.mentions⟩
  · have hjudges := judges_checkEntryPoints e path wanted
    exact ⟨hjudges, hjudges.imp_iff fun _ => Elf.Defines.mentions⟩

/-! ## A small library -/

/-- The symbols of a library with one function. It is in a section of the file, or in another
library if the number of the section is zero. The first symbol of a table is always empty. -/
def smallLibrary (place : Nat) : Elf where
  dynamic := .empty
  static := ⟨[⟨0, 0⟩, ⟨1, place⟩], ⟨[(0, ""), (1, "detect_motion")]⟩⟩

/-- A function that is in the file is found, and one that no symbol mentions is not. -/
theorem lists_defines_smallLibrary :
    Lists (smallLibrary 1).Defines "d" ((smallLibrary 1).exportsWithPrefix "d") ∧
    (∀ name ∈ ["uninit_motion_trigger", "detect_motion"],
      (smallLibrary 1).Mentions name → (smallLibrary 1).Defines name) ∧
    Judges (smallLibrary 1).Defines "motion.so" ["uninit_motion_trigger", "detect_motion"]
      (checkEntryPoints "motion.so" (.other (some (smallLibrary 1)))
        ["uninit_motion_trigger", "detect_motion"]) := by
  obtain ⟨-, hlists, -, hcheck⟩ := lists_defines_iff (smallLibrary 1) "d"
  have hwanted : ∀ name ∈ ["uninit_motion_trigger", "detect_motion"],
      (smallLibrary 1).Mentions name → (smallLibrary 1).Defines name := by decide +kernel
  refine ⟨hlists.mpr fun name hstart hmentions => ?_, hwanted,
    (hcheck "motion.so" _).2.mpr hwanted⟩
  -- The empty name is mentioned too, but does not start with this letter.
  have hnames : ∀ name ∈ (smallLibrary 1).names, "d".toList <+: name.toList →
      (smallLibrary 1).Defines name := by decide +kernel
  exact hnames name (Elf.mem_names.mpr hmentions) hstart

/-- A function that is only referred to is found, and a check for it passes. -/
theorem reference_passes_check :
    ¬(smallLibrary 0).Defines "detect_motion" ∧
    ¬Lists (smallLibrary 0).Defines "d" ((smallLibrary 0).exportsWithPrefix "d") ∧
    ¬Judges (smallLibrary 0).Defines "motion.so" ["detect_motion"]
      (checkEntryPoints "motion.so" (.other (some (smallLibrary 0))) ["detect_motion"]) := by
  have hundefined : ¬(smallLibrary 0).Defines "detect_motion" := by decide +kernel
  have hmentions : (smallLibrary 0).Mentions "detect_motion" := by decide +kernel
  have hstart : "d".toList <+: "detect_motion".toList := by decide
  refine ⟨hundefined, fun h => ?_, fun h => ?_⟩
  · have hfound := mem_exportsWithPrefix.mpr ⟨hstart, hmentions⟩
    exact hundefined ((h.mem_iff "detect_motion").mp hfound).2
  · have hpasses := (judges_checkEntryPoints (smallLibrary 0) "motion.so"
      ["detect_motion"]).passes.mpr (by simpa using hmentions)
    exact hundefined (h.passes.mp hpasses _ List.mem_cons_self)

end MotionWatch.Plugin
