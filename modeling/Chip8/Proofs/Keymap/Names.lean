import Chip8.Keymap
/-!
# The names of a keymap

A text is a keymap if it is `Usable`: its commas part it into sixteen pieces, none of which
is blank and no two of which name the same key (`parse_eq_ok_iff`). The pieces are looked at
one after another, each beside those before it, but whether a flaw is found does not depend
on their order. The names are then all there is to a code: it stands for the key that has
its name, and for no other, as no two keys have the same (`logical?_eq_some_iff`).
-/

namespace Chip8

/-! ## Lower case -/

namespace Text

theorem lowercaseWithin_ne_nil (before : List Char) (c : Char) (after : List Char) :
    lowercaseWithin before c after ≠ [] := by
  unfold lowercaseWithin
  split
  · exact List.cons_ne_nil _ _
  · split
    · split <;> exact List.cons_ne_nil _ _
    · exact List.cons_ne_nil _ _

/-- A text is not lost in lower case. -/
theorem lowercase_eq_empty_iff (s : String) : lowercase s = "" ↔ s = "" := by
  rw [lowercase, String.ofList_eq_empty_iff, ← String.toList_eq_nil_iff]
  cases s.toList with
  | nil => exact Iff.rfl
  | cons c rest => simp [lowercaseFrom, lowercaseWithin_ne_nil]

end Text

namespace Keymap

variable {text name : String} {keymap : Keymap} {key : Fin 16} {code : KeyCode}

/-! ## Reading a keymap -/

/-- The pieces of a text are what lies between its commas. -/
theorem pieces_eq_splitOn (characters : List Char) :
    pieces characters = characters.splitOn ',' := by
  induction characters with
  | nil => rfl
  | cons c rest ih =>
    rw [List.splitOn_eq_splitOnP, List.splitOnP_cons_eq_if_modifyHead,
      ← List.splitOn_eq_splitOnP, ← ih, pieces]
    cases parts : pieces rest with
    | nil => exact absurd (ih.symm.trans parts) (List.splitOn_ne_nil ',' rest)
    | cons piece others => by_cases comma : c = ',' <;> simp [comma]

/-- **No flaw is found** if no name is empty, and each differs from those after it and from
those seen before. -/
theorem firstFlaw?_eq_none_iff (seen names : List String) :
    firstFlaw? seen names = none ↔
      (∀ name ∈ names, name ≠ "") ∧ names.Nodup ∧ ∀ name ∈ names, name ∉ seen := by
  induction names generalizing seen with
  | nil => simp [firstFlaw?]
  | cons name rest ih =>
    rw [firstFlaw?]
    by_cases empty : name = ""
    · simp [empty]
    · rw [if_neg empty]
      by_cases known : name ∈ seen
      · simp [known]
      · -- the names after this one are to differ from it as from those seen before it
        rw [if_neg known, ih]
        simp only [List.mem_append, List.mem_singleton, List.forall_mem_cons, List.nodup_cons]
        grind

/-- **The text can be used as a keymap.** -/
structure Usable (text : String) : Prop where
  /-- There are sixteen pieces. -/
  count : (text.toList.splitOn ',').length = 16
  /-- None of them is blank. -/
  named : ∀ piece ∈ text.toList.splitOn ',', Text.strip (String.ofList piece) ≠ ""
  /-- No two are alike but for blanks at their ends and the case of their letters. -/
  distinct : ((text.toList.splitOn ',').map fun piece =>
    Text.lowercase (Text.strip (String.ofList piece))).Nodup

/-- The names of a text that can be used have no flaw. -/
theorem usable_iff (text : String) :
    Usable text ↔ ((pieces text.toList).map normalise).length = 16 ∧
      firstFlaw? [] ((pieces text.toList).map normalise) = none := by
  rw [pieces_eq_splitOn, firstFlaw?_eq_none_iff, List.length_map]
  constructor
  · rintro ⟨count, named, distinct⟩
    refine ⟨count, fun name mem => ?_, distinct, fun name mem => List.not_mem_nil⟩
    obtain ⟨piece, came, rfl⟩ := List.mem_map.1 mem
    exact mt (Text.lowercase_eq_empty_iff _).1 (named piece came)
  · rintro ⟨count, named, distinct, -⟩
    refine ⟨count, fun piece mem blank => ?_, distinct⟩
    exact named _ (List.mem_map_of_mem mem) ((Text.lowercase_eq_empty_iff _).2 blank)

/-- **A text is read as a keymap exactly if it can be used**, and the keymap has its names. -/
theorem parse_eq_ok_iff :
    parse text = .ok keymap ↔
      Usable text ∧ keymap.names.toList = (text.toList.splitOn ',').map normalise := by
  rw [usable_iff, ← pieces_eq_splitOn]
  unfold parse
  by_cases count : ((pieces text.toList).map normalise).length = 16
  · rw [dif_pos count]
    cases flaw : firstFlaw? [] ((pieces text.toList).map normalise) with
    | some error => exact ⟨nofun, fun ⟨⟨_, unflawed⟩, _⟩ => nomatch unflawed⟩
    | none =>
      obtain ⟨vector⟩ := keymap
      simp only [Except.ok.injEq, Keymap.mk.injEq, count, true_and]
      constructor
      · intro same
        rw [← same]
        rfl
      · intro same
        exact Vector.toList_inj.1 same.symm
  · rw [dif_neg count]
    exact ⟨nofun, fun ⟨⟨sixteen, _⟩, _⟩ => absurd sixteen count⟩

/-- A text that can be used is some keymap. -/
theorem exists_parse_iff : (∃ keymap, parse text = .ok keymap) ↔ Usable text := by
  refine ⟨fun ⟨keymap, parsed⟩ => (parse_eq_ok_iff.1 parsed).1, fun usable => ?_⟩
  have count : ((text.toList.splitOn ',').map normalise).length = 16 := by
    rw [List.length_map, usable.count]
  exact ⟨⟨⟨_, List.size_toArray.trans count⟩⟩, parse_eq_ok_iff.2 ⟨usable, rfl⟩⟩

/-! ## Looking a key up -/

/-- The name that a text gives to a logical key: the piece in the place of the key, without
blanks at its ends and in lower case. -/
def written (text : String) (key : Fin 16) : String :=
  Text.lowercase (Text.strip (String.ofList ((text.toList.splitOn ',').getD key [])))

theorem Usable.getElem?_pieces (usable : Usable text) (key : Fin 16) :
    ((text.toList.splitOn ',').map normalise)[key.val]? = some (written text key) := by
  have inside : key.val < (text.toList.splitOn ',').length := by
    rw [usable.count]
    exact key.isLt
  rw [List.getElem?_map, written, List.getD_eq_getElem?_getD, List.getElem?_eq_getElem inside]
  rfl

/-- No two keys have the same name. -/
theorem Usable.written_injective (usable : Usable text) {first second : Fin 16}
    (same : written text first = written text second) : first = second := by
  have inside : first.val < ((text.toList.splitOn ',').map normalise).length := by
    rw [List.length_map, usable.count]
    exact first.isLt
  refine Fin.ext ((List.getElem?_inj inside usable.distinct).1 ?_)
  exact (usable.getElem?_pieces first).trans
    ((congrArg some same).trans (usable.getElem?_pieces second).symm)

/-- The names of a keymap are those that its text gives. -/
theorem get_names (parsed : parse text = .ok keymap) (key : Fin 16) :
    keymap.names.get key = written text key := by
  obtain ⟨usable, names⟩ := parse_eq_ok_iff.1 parsed
  have named := usable.getElem?_pieces key
  rw [← names, Vector.getElem?_toList, Vector.getElem?_eq_getElem key.isLt] at named
  exact Option.some.inj named

/-- A code stands for no key if none has its name, -/
theorem logical?_eq_none_iff (parsed : parse text = .ok keymap) :
    code.logical? keymap = none ↔ ∀ key, Text.lowercase code.toText ≠ written text key := by
  simp only [KeyCode.logical?, find?, List.find?_eq_none, List.mem_finRange, beq_iff_eq,
    true_imp_iff, get_names parsed]
  exact forall_congr' fun key => not_congr eq_comm

/-- **and for the key that has it**, if one has. -/
theorem logical?_eq_some_iff (parsed : parse text = .ok keymap) :
    code.logical? keymap = some key ↔ Text.lowercase code.toText = written text key := by
  have found : ∀ other, code.logical? keymap = some other →
      Text.lowercase code.toText = written text other := by
    intro other found
    have named := List.find?_some found
    rw [beq_iff_eq, get_names parsed] at named
    exact named.symm
  refine ⟨found key, fun named => ?_⟩
  cases stands : code.logical? keymap with
  | none => exact absurd named ((logical?_eq_none_iff parsed).1 stands key)
  | some other =>
    have usable := (parse_eq_ok_iff.1 parsed).1
    rw [usable.written_injective ((found other stands).symm.trans named)]

end Keymap
end Chip8
