import TermSheet.Proofs.Json.RoundTrip

/-!
# The characters of JSON texts

The text of a value consists of visible ASCII characters and blanks, and, in a layout that has
lines, of the line breaks between them.

Results:
* `isShown_of_mem_quoted`, `isShown_of_mem_intChars`, `isShown_of_mem_floatText`: texts and numbers.
* `isPlain_of_mem_chars`: values in a layout.
* `ascii_of_mem_render`, `newline_not_mem_render`: whole texts are ASCII, and those on one line hold
  no line break.
-/

namespace TermSheet.Json

/-- A character that is shown, or the line break of a layout that has lines. -/
def IsPlain (layout : Layout) (c : Char) : Prop := IsShown c ∨ layout ≠ none ∧ c = '\n'

theorem isShown_of_mem_unitEscape {unit : Nat} (h : unit < 0x10000) :
    ∀ c ∈ unitEscape unit, IsShown c := by
  have digit : ∀ d < 16, IsShown (Nat.digitChar d) := by decide
  intro c hc
  simp only [unitEscape, hexDigits_four h, List.mem_cons, List.not_mem_nil, or_false] at hc
  rcases hc with rfl | rfl | rfl | rfl | rfl | rfl
  · decide
  · decide
  · exact digit _ (by omega)
  · exact digit _ (by omega)
  · exact digit _ (by omega)
  · exact digit _ (by omega)

theorem isShown_of_mem_escapeChar (c : Char) : ∀ d ∈ escapeChar c, IsShown d := by
  have marks : ∀ escape ∈ shortEscapes, IsShown escape.1 := by decide
  rcases escapeChar_cases c with ⟨mark, short, text⟩ | ⟨shown, -, -, text⟩ | ⟨basic, text⟩ |
    ⟨above, text⟩
  · intro d hd
    simp only [text, List.mem_cons, List.not_mem_nil, or_false] at hd
    rcases hd with rfl | rfl
    · decide
    · exact marks (d, c) short
  · intro d hd
    rw [text, List.mem_singleton] at hd
    rw [hd]
    exact shown
  · rw [text]
    exact isShown_of_mem_unitEscape basic
  · have below : c.toNat < 0x110000 := by rcases code_cases c with h | h | h <;> omega
    intro d hd
    rw [text] at hd
    rcases List.mem_append.mp hd with first | second
    · exact isShown_of_mem_unitEscape (by omega) d first
    · exact isShown_of_mem_unitEscape (by omega) d second

theorem isShown_of_mem_quoted (s : String) : ∀ c ∈ quoted s, IsShown c := by
  intro c hc
  simp only [quoted, List.cons_append, List.mem_cons, List.mem_append, List.mem_flatMap,
    List.not_mem_nil, or_false] at hc
  rcases hc with rfl | ⟨d, -, hd⟩ | rfl
  · decide
  · exact isShown_of_mem_escapeChar d c hd
  · decide

theorem isShown_of_isNumberChar {c : Char} (h : isNumberChar c = true) : IsShown c := by
  rw [isNumberChar, Bool.or_eq_true] at h
  rcases h with digit | mark
  · have := toNat_of_isDigit digit
    exact ⟨by omega, by omega⟩
  · exact forall_mem_of_all (by decide) c (List.contains_iff_mem.mp mark)

theorem isShown_of_mem_intChars (i : Int) : ∀ c ∈ intChars i, IsShown c :=
  fun c hc => isShown_of_isNumberChar (isNumberChar_of_mem_intChars i c hc)

theorem isShown_of_mem_floatText (x : Binary64) : ∀ c ∈ (floatText x).toList, IsShown c := by
  cases x with
  | nan => exact forall_mem_of_all (by decide)
  | infinite negative => cases negative <;> exact forall_mem_of_all (by decide)
  | finite negative significand exponent fits =>
    exact fun c hc => isShown_of_isNumberChar (isNumberChar_of_mem_floatText _ _ _ _ c hc)

theorem isPlain_of_mem_lineBreak (layout : Layout) (depth : Nat) :
    ∀ c ∈ layout.lineBreak depth, IsPlain layout c := by
  intro c hc
  cases layout with
  | none => cases hc
  | some width =>
    rcases List.mem_cons.mp hc with rfl | blank
    · exact Or.inr ⟨Option.some_ne_none width, rfl⟩
    · rw [(List.mem_replicate.mp blank).2]
      exact Or.inl (by decide)

theorem isPlain_of_mem_separator (layout : Layout) (depth : Nat) :
    ∀ c ∈ layout.separator depth, IsPlain layout c := by
  intro c hc
  cases layout with
  | none =>
    have shown : ∀ d ∈ [',', ' '], IsShown d := forall_mem_of_all (by decide)
    exact Or.inl (shown c hc)
  | some width =>
    rcases List.mem_cons.mp hc with rfl | line
    · exact Or.inl (by decide)
    · exact isPlain_of_mem_lineBreak (some width) depth c line

theorem isPlain_of_mem_group {α : Type} {write : α → List Char} {layout : Layout} {first : α}
    {members : List α} (h : ∀ member ∈ first :: members, ∀ c ∈ write member, IsPlain layout c)
    {start close : Char} (hs : IsShown start) (hc : IsShown close) (inner outer : Nat) :
    ∀ c ∈ start :: (layout.lineBreak inner ++ (write first ++
      (memberChars layout inner write members ++ (layout.lineBreak outer ++ [close])))),
      IsPlain layout c := by
  intro c mem
  simp only [List.mem_cons, List.mem_append, memberChars, List.mem_flatMap, List.not_mem_nil,
    or_false] at mem
  rcases mem with rfl | line | body | ⟨member, mem, separator | body⟩ | line | rfl
  · exact Or.inl hs
  · exact isPlain_of_mem_lineBreak layout inner c line
  · exact h first List.mem_cons_self c body
  · exact isPlain_of_mem_separator layout inner c separator
  · exact h member (List.mem_cons_of_mem first mem) c body
  · exact isPlain_of_mem_lineBreak layout outer c line
  · exact Or.inl hc

theorem isPlain_of_mem_chars (j : Json) (layout : Layout) (depth : Nat) :
    ∀ c ∈ chars layout depth j, IsPlain layout c := by
  induction j using parts_induction generalizing depth with
  | null =>
    have shown : ∀ c ∈ "null".toList, IsShown c := forall_mem_of_all (by decide)
    exact fun c hc => Or.inl (shown c hc)
  | bool b =>
    have shown : ∀ c ∈ if b then "true".toList else "false".toList, IsShown c := by
      cases b <;> exact forall_mem_of_all (by decide)
    exact fun c hc => Or.inl (shown c hc)
  | int i => exact fun c hc => Or.inl (isShown_of_mem_intChars i c hc)
  | float x => exact fun c hc => Or.inl (isShown_of_mem_floatText x c hc)
  | text s => exact fun c hc => Or.inl (isShown_of_mem_quoted s c hc)
  | array items ih =>
    cases items with
    | nil =>
      have shown : ∀ c ∈ ['[', ']'], IsShown c := forall_mem_of_all (by decide)
      exact fun c hc => Or.inl (shown c hc)
    | cons item items =>
      rw [← List.append_nil (chars layout depth _), chars_array_cons]
      exact isPlain_of_mem_group (fun other mem => ih other mem (depth + 1)) (by decide) (by decide)
        (depth + 1) depth
  | object fields ih =>
    cases fields with
    | nil =>
      have shown : ∀ c ∈ ['\x7b', '\x7d'], IsShown c := forall_mem_of_all (by decide)
      exact fun c hc => Or.inl (shown c hc)
    | cons field fields =>
      rw [← List.append_nil (chars layout depth _), chars_object_cons]
      refine isPlain_of_mem_group (fun other mem c hc => ?_) (by decide) (by decide) (depth + 1)
        depth
      simp only [fieldText, List.mem_append, List.mem_cons] at hc
      rcases hc with name | rfl | rfl | body
      · exact Or.inl (isShown_of_mem_quoted other.1 c name)
      · exact Or.inl (by decide)
      · exact Or.inl (by decide)
      · exact ih other mem (depth + 1) c body

theorem ascii_of_mem_render (j : Json) (layout : Layout) :
    ∀ c ∈ (render layout j).toList, c.toNat < 0x80 := by
  intro c hc
  rw [render, String.toList_ofList] at hc
  rcases isPlain_of_mem_chars j layout 0 c hc with shown | ⟨-, rfl⟩
  · exact Nat.lt_of_lt_of_le shown.2 (by decide)
  · decide

theorem newline_not_mem_render (j : Json) : '\n' ∉ (render none j).toList := by
  intro mem
  rw [render, String.toList_ofList] at mem
  rcases isPlain_of_mem_chars j none 0 _ mem with shown | ⟨lines, -⟩
  · exact absurd shown (by decide)
  · exact lines rfl

end TermSheet.Json
