import MotionWatch.Proofs.Text.Blank
import MotionWatch.Text.KeyValue

/-!
# Lines of settings and their pairs

A line of settings can be written in many ways: with blanks, empty entries and keys that stand
alone. What it says is a list of pairs, and among the lines that say the same there is one that
writes every pair in full.

* `Tidy`: a key and a value as they are found in lines.
* `tidy_entry`, `entry_renderEntry`: an entry is split into a tidy pair, and a tidy pair is what its
  own entry is split into.
* `parseChars_renderChars`: the line of tidy pairs says these pairs.
* `parse_render`: what lines say, and that the full line says the same.
-/

namespace MotionWatch.Text.KeyValue

/-- A key and a value that can stand on a line as they are: the commas and the first equals sign
are those of the line, and no blanks would be taken away. -/
structure Tidy (key value : List Char) : Prop where
  key_unpadded : Unpadded key
  value_unpadded : Unpadded value
  comma_not_mem_key : ',' ∉ key
  comma_not_mem_value : ',' ∉ value
  equals_not_mem_key : '=' ∉ key

variable {cs key value : List Char}

/-! ## Entries -/

/-- Between two commas there is none. -/
theorem not_mem_of_mem_splitOn {c : Char} (h : cs ∈ key.splitOn c) : c ∉ cs := by
  induction key generalizing cs with
  | nil =>
    obtain rfl := List.mem_singleton.mp h
    exact List.not_mem_nil
  | cons d rest ih =>
    rw [List.splitOn_cons_eq_if_modifyHead] at h
    split at h
    · obtain rfl | h := List.mem_cons.mp h
      · exact List.not_mem_nil
      · exact ih h
    · next hd =>
      cases hrest : rest.splitOn c with
      | nil => exact absurd hrest (List.splitOn_ne_nil c rest)
      | cons piece pieces =>
        rw [hrest, List.modifyHead_cons] at h
        obtain rfl | h := List.mem_cons.mp h
        · rw [List.mem_cons, not_or]
          exact ⟨fun heq => hd (beq_iff_eq.mpr heq.symm), ih (hrest ▸ List.mem_cons_self)⟩
        · exact ih (hrest ▸ List.mem_cons_of_mem piece h)

/-- **An entry is split into a tidy pair.** -/
theorem tidy_entry (hunpadded : Unpadded cs) (hcomma : ',' ∉ cs) :
    Tidy (entry cs).1 (entry cs).2 := by
  have hsplit := List.takeWhile_append_dropWhile (p := (· ≠ '=')) (l := cs)
  have hkey : '=' ∉ cs.takeWhile (· ≠ '=') := fun h => by simpa using List.mem_takeWhile_imp h
  unfold entry
  split
  · next hnone =>
    -- Without an equals sign the whole entry is the key.
    rw [hnone, List.append_nil] at hsplit
    rw [hsplit] at hkey
    exact ⟨hunpadded, ⟨nofun, nofun⟩, hcomma, List.not_mem_nil, hkey⟩
  · next sign rest hrest =>
    rw [hrest] at hsplit
    refine ⟨unpadded_strip _, unpadded_strip _, fun h => hcomma ?_, fun h => hcomma ?_,
      fun h => hkey (mem_of_mem_strip h)⟩
    · exact hsplit ▸ List.mem_append_left _ (mem_of_mem_strip h)
    · exact hsplit ▸ List.mem_append_right _ (List.mem_cons_of_mem sign (mem_of_mem_strip h))

theorem unpadded_renderEntry (h : Tidy key value) : Unpadded (renderEntry (key, value)) := by
  constructor
  · intro c hc
    cases key with
    | nil =>
      obtain rfl := Option.some.inj hc
      rfl
    | cons k key => exact h.key_unpadded.first c hc
  · intro c hc
    rw [renderEntry, List.getLast?_append, List.getLast?_cons] at hc
    cases hvalue : value.getLast? with
    | none =>
      rw [hvalue] at hc
      obtain rfl := Option.some.inj hc
      rfl
    | some last =>
      rw [hvalue] at hc
      exact h.value_unpadded.last c (hvalue.trans hc)

/-- A tidy pair is what its own entry is split into. -/
theorem entry_renderEntry (h : Tidy key value) :
    entry (renderEntry (key, value)) = (key, value) := by
  have hkey : ∀ c ∈ key, decide (c ≠ '=') = true := by
    rintro c hc
    exact decide_eq_true fun heq => h.equals_not_mem_key (heq ▸ hc)
  have hdrop : (key ++ '=' :: value).dropWhile (· ≠ '=') = '=' :: value :=
    List.dropWhile_append_of_pos hkey
  have htake : (key ++ '=' :: value).takeWhile (· ≠ '=') = key := by
    rw [List.takeWhile_append_of_pos hkey]
    exact List.append_nil key
  unfold entry renderEntry
  rw [hdrop]
  dsimp only
  rw [htake, strip_eq_self_iff.mpr h.key_unpadded, strip_eq_self_iff.mpr h.value_unpadded]

/-! ## Lines -/

/-- **What a line says is tidy.** -/
theorem tidy_of_mem_parseChars {p : List Char × List Char} (h : p ∈ parseChars cs) :
    Tidy p.1 p.2 := by
  obtain ⟨e, he, rfl⟩ := List.mem_map.mp h
  obtain ⟨piece, hpiece, rfl⟩ := List.mem_map.mp (List.mem_filter.mp he).1
  exact tidy_entry (unpadded_strip piece)
    fun hcomma => not_mem_of_mem_splitOn hpiece (mem_of_mem_strip hcomma)

/-- **The line of tidy pairs says these pairs.** -/
theorem parseChars_renderChars {ps : List (List Char × List Char)}
    (h : ∀ p ∈ ps, Tidy p.1 p.2) : parseChars (renderChars ps) = ps := by
  cases ps with
  | nil => rfl
  | cons p ps =>
    have hcomma : ∀ e ∈ (p :: ps).map renderEntry, ',' ∉ e := by
      intro e he
      obtain ⟨q, hq, rfl⟩ := List.mem_map.mp he
      simp [renderEntry, (h q hq).comma_not_mem_key, (h q hq).comma_not_mem_value]
    have hstrip : ((p :: ps).map renderEntry).map strip = (p :: ps).map renderEntry := by
      rw [List.map_map]
      exact List.map_congr_left fun q hq => strip_eq_self_iff.mpr (unpadded_renderEntry (h q hq))
    have hfull : ∀ e ∈ (p :: ps).map renderEntry, (!e.isEmpty) = true := by
      intro e he
      obtain ⟨q, -, rfl⟩ := List.mem_map.mp he
      simp [renderEntry]
    unfold parseChars renderChars
    rw [List.splitOn_intercalate ',' hcomma (List.cons_ne_nil _ _), hstrip,
      List.filter_eq_self.mpr hfull, List.map_map]
    exact (List.map_congr_left fun q hq => entry_renderEntry (h q hq)).trans (List.map_id _)

theorem render_eq (ps : List (String × String)) :
    render ps = ",".intercalate (ps.map fun p => p.1 ++ "=" ++ p.2) := by
  refine String.toList_injective ?_
  rw [render, String.toList_ofList, renderChars, String.toList_intercalate, List.map_map,
    List.map_map]
  congr 1
  refine List.map_congr_left fun p _ => ?_
  simp [renderEntry]

theorem parse_render_of_tidy {ps : List (String × String)}
    (h : ∀ p ∈ ps, Tidy p.1.toList p.2.toList) : parse (render ps) = ps := by
  rw [parse, render, String.toList_ofList, parseChars_renderChars, List.map_map]
  · exact (List.map_congr_left fun p _ => by simp).trans (List.map_id _)
  · intro q hq
    obtain ⟨p, hp, rfl⟩ := List.mem_map.mp hq
    exact h p hp

/-- **What a line says can be written in full.** The keys and the values of any line have no commas
and no blanks at their ends, and the keys have no equals signs. The line that writes them one after
the other, each key with its value, says the same pairs in the same order. That is so for all lists
of such pairs, not only for those that were read. -/
theorem parse_render (line : String) :
    (∀ p ∈ parse line, Tidy p.1.toList p.2.toList) ∧
    parse (",".intercalate ((parse line).map fun p => p.1 ++ "=" ++ p.2)) = parse line ∧
    ∀ ps : List (String × String), (∀ p ∈ ps, Tidy p.1.toList p.2.toList) →
      parse (",".intercalate (ps.map fun p => p.1 ++ "=" ++ p.2)) = ps := by
  have hread : ∀ p ∈ parse line, Tidy p.1.toList p.2.toList := by
    intro p hp
    obtain ⟨q, hq, rfl⟩ := List.mem_map.mp hp
    rw [String.toList_ofList, String.toList_ofList]
    exact tidy_of_mem_parseChars hq
  have hwritten (ps : List (String × String)) (h : ∀ p ∈ ps, Tidy p.1.toList p.2.toList) :
      parse (",".intercalate (ps.map fun p => p.1 ++ "=" ++ p.2)) = ps := by
    rw [← render_eq]
    exact parse_render_of_tidy h
  exact ⟨hread, hwritten _ hread, hwritten⟩

/-- Blanks that are not ASCII ones, an empty entry, an empty key, a value with an equals sign and a
key without a value. -/
theorem parse_render_untidy :
    parse "\u2003a\u00a0= b=c ,, =d,e\u3000" = [("a", "b=c"), ("", "d"), ("e", "")] ∧
      parse "a=b=c,=d,e=" = [("a", "b=c"), ("", "d"), ("e", "")] := by
  have hline : parse "\u2003a\u00a0= b=c ,, =d,e\u3000" = [("a", "b=c"), ("", "d"), ("e", "")] := by
    decide
  obtain ⟨htidy, -, hwritten⟩ := parse_render "\u2003a\u00a0= b=c ,, =d,e\u3000"
  have h := hwritten _ htidy
  rw [hline] at h
  exact ⟨hline, h⟩

end MotionWatch.Text.KeyValue
