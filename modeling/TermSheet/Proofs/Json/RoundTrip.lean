import TermSheet.Proofs.Json.Number

/-!
# JSON texts are read back

The text of a value in which all floating-point numbers are finite is read back, in every layout and
in front of any rest that does not go on with a number. The text of any other value is not a JSON
text: the first number in it that is not finite is written by name, and the reader stops there. An
array and an object are written and read in the same way, as a group of members; what a group needs
is that its members are read back behind blanks, or are not.

Results:
* `parts_induction`: what holds of a value when it holds of its parts holds of every value.
* `takeGroup?_cons`: a group is read back when its members are.
* `takeValue?_array`, `takeValue?_object`: collections.
* `reads_takeValue?`: exactly the finite values are read back in front of a rest.
* `ofText?_render_eq`, `ofText?_render`, `eq_of_render_eq`: the whole text of a value.
-/

namespace TermSheet.Json

/-! ## Groups -/

section Group

variable {α : Type} {one? : List Char → Option (α × List Char)} {close : Char} {good : α → Bool}
  (write : α → List Char) (layout : Layout) (inner outer : Nat)

/-- The members of a group behind the first one, each with its separator. -/
def memberChars (layout : Layout) (depth : Nat) (write : α → List Char) (members : List α) :
    List Char :=
  members.flatMap fun member => layout.separator depth ++ write member

/-- The marks that close a group. -/
def IsClose (c : Char) : Prop := c = ']' ∨ c = '\x7d'

theorem IsClose.not_isBlank (h : IsClose close) : isBlank close = false := by
  rcases h with rfl | rfl <;> rfl

theorem IsClose.not_isNumberChar (h : IsClose close) : isNumberChar close = false := by
  rcases h with rfl | rfl <;> rfl

theorem IsClose.ne_comma (h : IsClose close) : ',' ≠ close := by
  rcases h with rfl | rfl <;> decide

/-- A reader finds a written member again if it is good, with blanks in front of it and in front of
    any text that does not go on with a number, and otherwise it finds nothing. -/
def Reads (one? : List Char → Option (α × List Char)) (write : α → List Char) (good : Bool)
    (member : α) : Prop :=
  ∀ blanks rest, (∀ c ∈ blanks, isBlank c = true) → Stops isNumberChar rest →
    one? (blanks ++ (write member ++ rest)) = if good then some (member, rest) else none

/-- A group goes on with a comma, a line break or the closing mark. -/
theorem stops_memberChars (mark : IsClose close) (members : List α) (rest : List Char) :
    Stops isNumberChar (memberChars layout inner write members ++
      (layout.lineBreak outer ++ close :: rest)) := by
  cases members with
  | nil =>
    cases layout with
    | none => exact stops_cons mark.not_isNumberChar rest
    | some width => exact stops_cons (by rfl) _
  | cons member members =>
    obtain ⟨blanks, comma, -⟩ := exists_separator layout inner
    rw [memberChars, List.flatMap_cons, comma]
    exact stops_cons (by rfl) _

theorem takeMembers?_memberChars (mark : IsClose close) {members : List α}
    (found : ∀ member ∈ members, Reads one? write (good member) member) {fuel : Nat}
    (enough : members.length < fuel) (rest : List Char) :
    takeMembers? one? close fuel (memberChars layout inner write members ++
      (layout.lineBreak outer ++ close :: rest)) =
        if members.all good then some (members, rest) else none := by
  induction members generalizing fuel with
  | nil =>
    obtain ⟨fuel, rfl⟩ : ∃ n, fuel = n + 1 := ⟨fuel - 1, by omega⟩
    rw [memberChars, List.flatMap_nil, List.nil_append, takeMembers?,
      skip_append fun _ => isBlank_of_mem_lineBreak layout outer, skip_cons mark.not_isBlank]
    exact if_pos rfl
  | cons member members ih =>
    rw [List.length_cons] at enough
    obtain ⟨fuel, rfl⟩ : ∃ n, fuel = n + 1 := ⟨fuel - 1, by omega⟩
    obtain ⟨blanks, comma, blank⟩ := exists_separator layout inner
    have first := found member List.mem_cons_self blanks _ blank
      (stops_memberChars write layout inner outer mark members rest)
    have others := ih (fun other h => found other (List.mem_cons_of_mem member h))
      (Nat.lt_of_succ_lt_succ enough)
    have shape : memberChars layout inner write (member :: members) ++
        (layout.lineBreak outer ++ close :: rest) =
        ',' :: (blanks ++ (write member ++ (memberChars layout inner write members ++
          (layout.lineBreak outer ++ close :: rest)))) := by
      simp only [memberChars, List.flatMap_cons, comma, List.cons_append, List.append_assoc]
    rw [shape, takeMembers?, skip_cons (by rfl), List.all_cons]
    simp only [if_neg mark.ne_comma, if_true, first]
    cases good member with
    | false => rfl
    | true =>
      simp only [if_true, others, Option.bind_eq_bind, Option.bind_some, Bool.true_and]
      cases members.all good <;> rfl

theorem takeGroup?_nil (mark : IsClose close) (fuel : Nat) (rest : List Char) :
    takeGroup? one? close fuel (close :: rest) = some ([], rest) := by
  rw [takeGroup?, skip_cons mark.not_isBlank]
  exact if_pos rfl

theorem takeGroup?_cons (mark : IsClose close) {member : α} {members : List α}
    (found : ∀ other ∈ member :: members, Reads one? write (good other) other)
    (start : ∃ c cs, write member = c :: cs ∧ isBlank c = false ∧ c ≠ close) {fuel : Nat}
    (enough : members.length < fuel) (rest : List Char) :
    takeGroup? one? close fuel (layout.lineBreak inner ++ (write member ++
      (memberChars layout inner write members ++ (layout.lineBreak outer ++ close :: rest)))) =
        if (member :: members).all good then some (member :: members, rest) else none := by
  obtain ⟨c, cs, text, visible, other⟩ := start
  have first := found member List.mem_cons_self [] _ (fun _ h => by cases h)
    (stops_memberChars write layout inner outer mark members rest)
  have others := takeMembers?_memberChars write layout inner outer mark
    (fun other h => found other (List.mem_cons_of_mem member h)) enough rest
  rw [takeGroup?, skip_append fun _ => isBlank_of_mem_lineBreak layout inner]
  rw [List.nil_append, text, List.cons_append] at first
  rw [text, List.cons_append, skip_cons visible, List.all_cons]
  simp only [if_neg other, first]
  cases good member with
  | false => rfl
  | true =>
    simp only [if_true, others, Option.bind_eq_bind, Option.bind_some, Bool.true_and]
    cases members.all good <;> rfl

/-- The text of the members is longer than each of them, and there are no more members than
    characters. -/
theorem length_memberChars (members : List α) :
    (∀ member ∈ members, (write member).length ≤ (memberChars layout inner write members).length) ∧
      members.length ≤ (memberChars layout inner write members).length := by
  induction members with
  | nil => exact ⟨fun _ h => (List.not_mem_nil h).elim, Nat.zero_le _⟩
  | cons member members ih =>
    obtain ⟨blanks, comma, -⟩ := exists_separator layout inner
    have total : (memberChars layout inner write (member :: members)).length =
        blanks.length + 1 + (write member).length +
          (memberChars layout inner write members).length := by
      simp only [memberChars, List.flatMap_cons, comma, List.length_append, List.length_cons]
    rw [total, List.length_cons]
    refine ⟨fun other h => ?_, by omega⟩
    rcases List.mem_cons.mp h with rfl | h
    · omega
    · have := ih.1 other h
      omega

/-- Each member of a written group is shorter than the group, and there are fewer of them. -/
theorem lt_length_group {member : α} {members : List α} {fuel : Nat}
    (enough : (layout.lineBreak inner ++ (write member ++ (memberChars layout inner write members ++
      (layout.lineBreak outer ++ [close])))).length ≤ fuel) :
    (∀ other ∈ member :: members, (write other).length < fuel) ∧ members.length < fuel := by
  obtain ⟨each, count⟩ :=
    length_memberChars write layout inner members
  simp only [List.length_append, List.length_singleton] at enough
  refine ⟨fun other h => ?_, by omega⟩
  rcases List.mem_cons.mp h with rfl | h
  · omega
  · have := each other h
    omega

end Group

/-! ## Values -/

/-- Induction over the items of arrays and the values in the fields of objects. -/
@[elab_as_elim]
theorem parts_induction {motive : Json → Prop} (j : Json) (null : motive null)
    (bool : ∀ b, motive (bool b)) (int : ∀ i, motive (int i)) (float : ∀ x, motive (float x))
    (text : ∀ s, motive (text s))
    (array : ∀ items, (∀ item ∈ items, motive item) → motive (array items))
    (object : ∀ fields, (∀ field ∈ fields, motive field.2) → motive (object fields)) :
    motive j :=
  match j with
  | .null => null
  | .bool b => bool b
  | .int i => int i
  | .float x => float x
  | .text s => text s
  | .array items => array items fun item _ =>
    parts_induction item null bool int float text array object
  | .object fields => object fields fun field _ =>
    parts_induction field.2 null bool int float text array object
termination_by sizeOf j
decreasing_by
  · have smaller := List.sizeOf_lt_of_mem ‹item ∈ items›
    rw [Json.array.sizeOf_spec]
    omega
  · have smaller := List.sizeOf_lt_of_mem ‹field ∈ fields›
    have part : sizeOf field = 1 + sizeOf field.1 + sizeOf field.2 := by cases field; rfl
    rw [Json.object.sizeOf_spec]
    omega

mutual

/-- Whether all floating-point numbers in a value are finite. -/
def isFinite : Json → Bool
  | float x => x.isFinite
  | array items => areFinite items
  | object fields => fieldsAreFinite fields
  | _ => true

/-- The same for the items of an array. -/
def areFinite : List Json → Bool
  | [] => true
  | item :: items => isFinite item && areFinite items

/-- The same for the fields of an object. -/
def fieldsAreFinite : List (String × Json) → Bool
  | [] => true
  | (_, item) :: fields => isFinite item && fieldsAreFinite fields

end

theorem isFinite_array (items : List Json) : (array items).isFinite = items.all isFinite := by
  rw [isFinite]
  induction items with
  | nil => rfl
  | cons item items ih => rw [areFinite, ih, List.all_cons]

theorem isFinite_object (fields : List (String × Json)) :
    (object fields).isFinite = fields.all fun field => field.2.isFinite := by
  rw [isFinite]
  induction fields with
  | nil => rfl
  | cons field fields ih => rw [fieldsAreFinite, ih, List.all_cons]

@[simp] theorem isFinite_text (s : String) : (text s).isFinite = true := rfl

@[simp] theorem isFinite_array_iff {items : List Json} :
    (array items).isFinite = true ↔ ∀ item ∈ items, item.isFinite = true := by
  rw [isFinite_array, List.all_eq_true]

@[simp] theorem isFinite_object_iff {fields : List (String × Json)} :
    (object fields).isFinite = true ↔ ∀ field ∈ fields, field.2.isFinite = true := by
  rw [isFinite_object, List.all_eq_true]

/-- A field of an object. -/
def fieldText (layout : Layout) (depth : Nat) (field : String × Json) : List Char :=
  quoted field.1 ++ ':' :: ' ' :: chars layout depth field.2

theorem itemChars_eq (layout : Layout) (depth : Nat) (items : List Json) :
    itemChars layout depth items = memberChars layout depth (chars layout depth) items := by
  induction items with
  | nil => rfl
  | cons item items ih =>
    rw [itemChars, ih]
    rfl

theorem fieldChars_eq (layout : Layout) (depth : Nat) (fields : List (String × Json)) :
    fieldChars layout depth fields = memberChars layout depth (fieldText layout depth) fields := by
  induction fields with
  | nil => rfl
  | cons field fields ih =>
    rw [fieldChars, ih, memberChars, memberChars, List.flatMap_cons, fieldText]
    simp only [List.append_assoc, List.cons_append]

theorem chars_array_cons (layout : Layout) (depth : Nat) (item : Json) (items : List Json)
    (rest : List Char) :
    chars layout depth (.array (item :: items)) ++ rest = '[' :: (layout.lineBreak (depth + 1) ++
      (chars layout (depth + 1) item ++ (memberChars layout (depth + 1) (chars layout (depth + 1))
        items ++ (layout.lineBreak depth ++ ']' :: rest)))) := by
  simp only [chars, itemChars_eq, List.append_assoc, List.cons_append, List.nil_append]

theorem chars_object_cons (layout : Layout) (depth : Nat) (field : String × Json)
    (fields : List (String × Json)) (rest : List Char) :
    chars layout depth (.object (field :: fields)) ++ rest =
      '\x7b' :: (layout.lineBreak (depth + 1) ++ (fieldText layout (depth + 1) field ++
        (memberChars layout (depth + 1) (fieldText layout (depth + 1)) fields ++
          (layout.lineBreak depth ++ '\x7d' :: rest)))) := by
  simp only [chars, fieldChars_eq, fieldText, List.append_assoc, List.cons_append, List.nil_append]

/-- An item of an array starts neither with a blank nor with the closing mark. -/
theorem exists_chars (layout : Layout) (depth : Nat) (j : Json) :
    ∃ c cs, chars layout depth j = c :: cs ∧ isBlank c = false ∧ c ≠ ']' := by
  have number {c : Char} (start : IsNumberStart c) : isBlank c = false ∧ c ≠ ']' := by
    refine ⟨start.not_isBlank, ?_⟩
    rintro rfl
    exact start.not_mem (by decide)
  cases j with
  | null => exact ⟨_, _, rfl, by decide⟩
  | bool b => cases b <;> exact ⟨_, _, rfl, by decide⟩
  | int i =>
    obtain ⟨c, cs, text, start⟩ := exists_intChars i
    exact ⟨c, cs, text, number start⟩
  | float x =>
    obtain ⟨c, cs, text, start⟩ := exists_floatText x
    exact ⟨c, cs, text, number start⟩
  | text s => exact ⟨_, _, rfl, by decide⟩
  | array items => cases items <;> exact ⟨_, _, rfl, by decide⟩
  | object fields => cases fields <;> exact ⟨_, _, rfl, by decide⟩

theorem reads_takeField? {layout : Layout} {depth fuel : Nat} {field : String × Json}
    (found : Reads (takeValue? fuel) (chars layout depth) field.2.isFinite field.2)
    (enough : (quoted field.1).length ≤ fuel + 2) :
    Reads (takeField? (takeValue? fuel) fuel) (fieldText layout depth) field.2.isFinite field := by
  intro blanks rest blank stop
  have name := takeText?_quoted enough (':' :: ' ' :: (chars layout depth field.2 ++ rest))
  have item : takeValue? fuel (' ' :: (chars layout depth field.2 ++ rest)) =
      if field.2.isFinite then some (field.2, rest) else none :=
    found [' '] rest (forall_mem_of_all (by decide)) stop
  rw [takeField?, skip_append blank]
  simp only [fieldText, quoted, List.cons_append, List.append_assoc, List.nil_append]
  rw [skip_cons (by decide)]
  simp only [name, Option.bind_eq_bind, Option.bind_some,
    skip_cons (show isBlank ':' = false by rfl), item]
  cases field.2.isFinite with
  | false => rfl
  | true =>
    simp only [if_true, Option.bind_some, String.ofList_toList]
    rfl

/-- Blanks in front of a value do not matter. -/
theorem reads_of_succ {j : Json} {write : Json → List Char} {good : Bool} {fuel : Nat}
    (enough : 0 < fuel)
    (read : ∀ n rest, fuel = n + 1 → Stops isNumberChar rest →
      takeValue? (n + 1) (write j ++ rest) = if good then some (j, rest) else none) :
    Reads (takeValue? fuel) write good j := by
  intro blanks rest blank stop
  obtain ⟨n, rfl⟩ : ∃ n, fuel = n + 1 := ⟨fuel - 1, by omega⟩
  have same : takeValue? (n + 1) (blanks ++ (write j ++ rest)) =
      takeValue? (n + 1) (write j ++ rest) := by
    rw [takeValue?, takeValue?, skip_append blank]
  exact same.trans (read n rest rfl stop)

/-- A text that starts like a number is read by the reader of numbers. -/
theorem takeValue?_of_number {number : List Char}
    (start : ∃ c cs, number = c :: cs ∧ IsNumberStart c) (fuel : Nat) (rest : List Char) :
    takeValue? (fuel + 1) (number ++ rest) = takeNumber? (number ++ rest) := by
  obtain ⟨c, cs, rfl, start⟩ := start
  exact takeValue?_of_start start fuel (cs ++ rest)

section Collections

variable (layout : Layout) (depth : Nat) {fuel : Nat}

/-- An array is read back when its items are. -/
theorem takeValue?_array {items : List Json}
    (read : ∀ item ∈ items, (chars layout (depth + 1) item).length < fuel →
      Reads (takeValue? fuel) (chars layout (depth + 1)) item.isFinite item)
    (enough : (chars layout depth (.array items)).length ≤ fuel) (rest : List Char) :
    takeValue? (fuel + 1) (chars layout depth (.array items) ++ rest) =
      if (Json.array items).isFinite then some (.array items, rest) else none := by
  rw [isFinite_array]
  cases items with
  | nil =>
    rw [chars, List.cons_append, List.cons_append, List.nil_append, takeValue?,
      skip_cons (by decide)]
    simp only [takeGroup?_nil (Or.inl rfl), Option.map_some]
    rfl
  | cons item items =>
    rw [← List.append_nil (chars layout depth _), chars_array_cons, List.length_cons] at enough
    obtain ⟨short, few⟩ := lt_length_group (chars layout (depth + 1)) layout (depth + 1) depth
      (Nat.le_of_lt enough)
    have group := takeGroup?_cons (chars layout (depth + 1)) layout (depth + 1) depth (Or.inl rfl)
      (fun other mem => read other mem (short other mem)) (exists_chars layout (depth + 1) item)
      few rest
    rw [chars_array_cons, takeValue?, skip_cons (by decide)]
    simp only [group]
    cases (item :: items).all isFinite <;> rfl

/-- An object is read back when the values of its fields are. -/
theorem takeValue?_object {fields : List (String × Json)}
    (read : ∀ field ∈ fields, (chars layout (depth + 1) field.2).length < fuel →
      Reads (takeValue? fuel) (chars layout (depth + 1)) field.2.isFinite field.2)
    (enough : (chars layout depth (.object fields)).length ≤ fuel) (rest : List Char) :
    takeValue? (fuel + 1) (chars layout depth (.object fields) ++ rest) =
      if (Json.object fields).isFinite then some (.object fields, rest) else none := by
  rw [isFinite_object]
  cases fields with
  | nil =>
    rw [chars, List.cons_append, List.cons_append, List.nil_append, takeValue?,
      skip_cons (by decide)]
    simp only [takeGroup?_nil (Or.inr rfl), Option.map_some]
    rfl
  | cons field fields =>
    rw [← List.append_nil (chars layout depth _), chars_object_cons, List.length_cons] at enough
    obtain ⟨short, few⟩ := lt_length_group (fieldText layout (depth + 1)) layout (depth + 1) depth
      (Nat.le_of_lt enough)
    have found (other : String × Json) (mem : other ∈ field :: fields) :
        Reads (takeField? (takeValue? fuel) fuel) (fieldText layout (depth + 1)) other.2.isFinite
          other := by
      have := short other mem
      rw [fieldText, List.length_append, List.length_cons, List.length_cons] at this
      exact reads_takeField? (read other mem (by omega)) (by omega)
    have group := takeGroup?_cons (fieldText layout (depth + 1)) layout (depth + 1) depth
      (Or.inr rfl) found ⟨'"', _, rfl, by decide⟩ few rest
    rw [chars_object_cons, takeValue?, skip_cons (by decide)]
    simp only [group]
    cases (field :: fields).all fun field => field.2.isFinite <;> rfl

end Collections

/-- The induction is on the value. Its text is longer than the text of any part, so what is enough
    for the value is enough for the parts. -/
theorem reads_takeValue? (j : Json) (layout : Layout) {depth fuel : Nat}
    (enough : (chars layout depth j).length < fuel) :
    Reads (takeValue? fuel) (chars layout depth) j.isFinite j := by
  induction j using parts_induction generalizing depth fuel with
  | null =>
    exact reads_of_succ (Nat.zero_lt_of_lt enough) fun n rest _ _ => by
      rw [takeValue?]
      rfl
  | bool b =>
    exact reads_of_succ (Nat.zero_lt_of_lt enough) fun n rest _ _ => by
      rw [takeValue?]
      cases b <;> rfl
  | int i =>
    refine reads_of_succ (Nat.zero_lt_of_lt enough) fun n rest _ stop => ?_
    rw [chars, takeValue?_of_number (exists_intChars i)]
    exact takeNumber?_intChars i stop
  | float x =>
    refine reads_of_succ (Nat.zero_lt_of_lt enough) fun n rest _ stop => ?_
    rw [chars, takeValue?_of_number (exists_floatText x)]
    exact takeNumber?_floatText x stop
  | text s =>
    refine reads_of_succ (Nat.zero_lt_of_lt enough) fun n rest hn _ => ?_
    rw [chars, hn] at enough
    have read := takeText?_quoted (Nat.le_of_lt (Nat.lt_succ_of_lt enough)) rest
    rw [chars, takeValue?, quoted, List.cons_append, List.cons_append, skip_cons (by decide)]
    simp only [List.append_assoc, List.cons_append, List.nil_append, read, Option.map_some,
      String.ofList_toList]
    rfl
  | array items ih =>
    refine reads_of_succ (Nat.zero_lt_of_lt enough) fun n rest hn _ => ?_
    rw [hn] at enough
    exact takeValue?_array layout depth (fun item mem => ih item mem)
      (Nat.le_of_lt_succ enough) rest
  | object fields ih =>
    refine reads_of_succ (Nat.zero_lt_of_lt enough) fun n rest hn _ => ?_
    rw [hn] at enough
    exact takeValue?_object layout depth (fun field mem => ih field mem)
      (Nat.le_of_lt_succ enough) rest

/-- A written value is read back from its whole text if all numbers in it are finite, and otherwise
    the text is no JSON text. -/
theorem ofText?_render_eq (j : Json) (layout : Layout) :
    ofText? (render layout j) = if j.isFinite then some j else none := by
  have read := reads_takeValue? j layout (Nat.lt_succ_self (chars layout 0 j).length) [] []
    (fun _ h => by cases h) stops_nil
  rw [List.nil_append, List.append_nil] at read
  rw [ofText?, render, String.toList_ofList]
  simp only [read]
  cases j.isFinite <;> rfl

theorem ofText?_render {j : Json} (h : j.isFinite = true) (layout : Layout) :
    ofText? (render layout j) = some j := by
  rw [ofText?_render_eq, if_pos h]

/-- Two values with one text are the same. -/
theorem eq_of_render_eq {a b : Json} (ha : a.isFinite = true) (hb : b.isFinite = true)
    {layout : Layout} (h : render layout a = render layout b) : a = b := by
  have read := ofText?_render ha layout
  rw [h, ofText?_render hb layout] at read
  exact (Option.some.inj read).symm

end TermSheet.Json
