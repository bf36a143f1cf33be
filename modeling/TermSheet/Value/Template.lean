import TermSheet.Text.Extent
import TermSheet.Value.Number

/-!
# Message templates

A template is a text with places marked by a percent sign. A mark names a form, and it may carry a
key, flags, a least width and a precision. The places are filled from a list of arguments in order,
or by key from a mapping. A doubled percent sign stands for one.
-/

namespace TermSheet

/-- A number in a place: its least width, or its precision. -/
inductive PlaceCount
  | width
  | precision
  deriving DecidableEq

/-- The first number that is too large for a place. -/
def PlaceCount.limit : PlaceCount → Nat
  | width => Nat.pow 2 63
  | precision => Nat.pow 2 31

/-- Why a template cannot be filled. -/
inductive TemplateFault
  | tooFewArguments
  | tooManyArguments
  | mappingNeeded
  | missingKey (key : String)
  | badIndex (message : String)
  | incompleteKey
  | incomplete
  | unknownForm (form : Char) (index : Nat)
  | widthNotWhole
  | writtenTooLarge (count : PlaceCount)
  | argumentTooLarge (count : PlaceCount)
  | noRoom
  | realNeeded (form : Char) (typeName : String)
  | wholeNeeded (form : Char) (typeName : String)
  | numberNeeded (typeName : String)
  | charNeeded
  | charOutOfRange
  | nanAsWhole (name : String)
  | infinityAsWhole (name : String)
  | signallingAsReal
  | tooLargeForReal
  | unshowable (fault : DisplayFault)

namespace TemplateFault

/-- The wording of a fault. -/
def message : TemplateFault → String
  | tooFewArguments => "not enough arguments for format string"
  | tooManyArguments => "not all arguments converted during string formatting"
  | mappingNeeded => "format requires a mapping"
  | missingKey key => Text.quoted key
  | badIndex message => message
  | incompleteKey => "incomplete format key"
  | incomplete => "incomplete format"
  | unknownForm form index =>
    let shown := if 31 < form.toNat ∧ form.toNat < 127 then form else '?'
    "unsupported format character '" ++ String.singleton shown ++ "' (0x" ++
      String.ofList (Nat.toDigits 16 form.toNat) ++ ") at index " ++ toString index
  | widthNotWhole => "* wants int"
  | writtenTooLarge .width => "width too big"
  | writtenTooLarge .precision => "precision too big"
  | argumentTooLarge .width => "Python int too large to convert to C ssize_t"
  | argumentTooLarge .precision => "Python int too large to convert to C int"
  | noRoom => ""
  | realNeeded form typeName =>
    "%" ++ String.singleton form ++ " format: a real number is required, not " ++ typeName
  | wholeNeeded form typeName =>
    "%" ++ String.singleton form ++ " format: an integer is required, not " ++ typeName
  | numberNeeded typeName => "must be real number, not " ++ typeName
  | charNeeded => "%c requires int or char"
  | charOutOfRange => "%c arg not in range(0x110000)"
  | nanAsWhole name => "cannot convert " ++ name ++ " to integer"
  | infinityAsWhole name => "cannot convert " ++ name ++ " to integer"
  | signallingAsReal => "cannot convert signaling NaN to float"
  | tooLargeForReal => "int too large to convert to float"
  | unshowable fault => fault.message

end TemplateFault

/-- The arguments of a template: those still to be used, and the mapping that keys are looked up
    in, where there is one. -/
structure TemplateArguments where
  remaining : List Value
  keyed : Option Value

namespace TemplateArguments

/-- The arguments that a value stands for. A sequence of fixed length is a list of arguments, any
    other value is a single one. -/
def ofValue : Value → TemplateArguments
  | .tuple items => ⟨items, none⟩
  | .settlement s => ⟨[.tuple (s.payments.map Value.payment), .ofContract s.residual], none⟩
  | .dict entries => ⟨[.dict entries], some (.dict entries)⟩
  | .list items => ⟨[.list items], some (.list items)⟩
  | .bytes octets => ⟨[.bytes octets], some (.bytes octets)⟩
  | v => ⟨[v], none⟩

/-- The next argument. -/
def next? (args : TemplateArguments) : Except TemplateFault (Value × TemplateArguments) :=
  match args.remaining with
  | [] => .error .tooFewArguments
  | arg :: rest => .ok (arg, { args with remaining := rest })

/-- The arguments with the value of a key as the only one left. -/
def select? (args : TemplateArguments) (key : String) : Except TemplateFault TemplateArguments :=
  match args.keyed with
  | some (.dict entries) =>
    match Value.field? entries key with
    | some item => .ok { args with remaining := [item] }
    | none => .error (.missingKey key)
  | some (.list _) => .error (.badIndex "list indices must be integers or slices, not str")
  | some (.bytes _) => .error (.badIndex "byte indices must be integers or slices, not str")
  | _ => .error .mappingNeeded

/-- Every argument must have been used, unless they are looked up by key. -/
def finish (args : TemplateArguments) : Except TemplateFault Unit :=
  if args.remaining.isEmpty || args.keyed.isSome then .ok () else .error .tooManyArguments

end TemplateArguments

namespace Template

/-! ## Filling one place -/

/-- A whole number for a place, with the fraction of a real number dropped. -/
def toWhole? (form : Char) (v : Value) : Except TemplateFault Int :=
  match v with
  | .bool b => .ok b.toNat
  | .int i => .ok i
  | .float x =>
    match x.toNumeral with
    | .finite d => wholePart d
    | .infinite _ => .error (.infinityAsWhole "float infinity")
    | .nan .. => .error (.nanAsWhole "float NaN")
  | .decimal (.finite d) => wholePart d
  | .decimal (.infinite _) => .error (.infinityAsWhole "Infinity")
  | .decimal (.nan ..) => .error (.nanAsWhole "NaN")
  | other => .error (.realNeeded form other.qualifiedName)
where
  /-- The whole part of a number, unless it has too many digits. -/
  wholePart (d : Decimal) : Except TemplateFault Int :=
    if d.coefficient = 0 ∨ d.adjusted < 0 then .ok 0
    else if mostDigits ≤ d.adjusted then .error (.unshowable .tooManyDigits)
    else
      let whole := d.coefficient * Nat.pow 10 d.exponent.toNat / Nat.pow 10 (-d.exponent).toNat
      .ok (if d.negative then -(whole : Int) else whole)

/-- A real number for a place. -/
def toReal? (v : Value) : Except TemplateFault Binary64 :=
  match v with
  | .float x => .ok x
  | .bool b => .ok (.ofDecimal (.ofNat b.toNat))
  | .int i =>
    match Binary64.ofDecimal (.ofInt i) with
    | .infinite _ => .error .tooLargeForReal
    | x => .ok x
  | .decimal (.finite d) => .ok (.ofDecimal d)
  | .decimal (.infinite negative) => .ok (.infinite negative)
  | .decimal (.nan _ false _) => .ok .nan
  | .decimal (.nan _ true _) => .error .signallingAsReal
  | other => .error (.numberNeeded other.qualifiedName)

/-- A text cut to the precision of its place. -/
def cutText (f : FieldFormat) (shown : Except DisplayFault String) :
    Except TemplateFault (List Char) :=
  match shown with
  | .error fault => .error (.unshowable fault)
  | .ok s =>
    let cs := s.toList
    .ok (f.fill ((f.precision.map cs.take).getD cs))

/-- The text of one character, or the character with a number. -/
def toChar? (v : Value) : Except TemplateFault (List Char) :=
  match v with
  | .int i =>
    if 0 ≤ i ∧ i < 0x110000 then .ok [Char.ofNat i.toNat] else .error .charOutOfRange
  | .bool b => .ok [Char.ofNat b.toNat]
  | other =>
    match other.toText?.map String.toList with
    | some [c] => .ok [c]
    | _ => .error .charNeeded

/-- A whole number in a base. -/
def basedNumber (form : Char) (f : FieldFormat) (base : Nat) (mark : List Char) (v : Value) :
    Except TemplateFault (List Char) :=
  match v with
  | .int i => .ok (f.wholeNumber base mark i)
  | .bool b => .ok (f.wholeNumber base mark b.toNat)
  | other => .error (.wholeNeeded form other.qualifiedName)

/-- A value in the form that a place names. -/
def fillPlace (form : Char) (index : Nat) (f : FieldFormat) (v : Value) :
    Except TemplateFault (List Char) :=
  match form with
  | 's' => cutText f v.plain
  | 'r' => cutText f v.exact
  | 'a' => cutText f (v.exact.map fun s => String.ofList (s.toList.flatMap escapeHigh))
  | 'd' | 'i' | 'u' => do
    let i ← toWhole? form v
    match intText i with
    | .error fault => throw (.unshowable fault)
    | .ok _ => return f.wholeNumber 10 [] i
  | 'x' => basedNumber form f 16 ['0', 'x'] v
  | 'X' => (basedNumber form f 16 ['0', 'x'] v).map (·.map Char.toUpper)
  | 'o' => basedNumber form f 8 ['0', 'o'] v
  | 'c' => do return { f with zeros := false }.fill (← toChar? v)
  | 'f' | 'F' => do return f.realNumber .fixed (form == 'F') (← toReal? v)
  | 'e' | 'E' => do return f.realNumber .power (form == 'E') (← toReal? v)
  | 'g' | 'G' => do return f.realNumber .general (form == 'G') (← toReal? v)
  | other => .error (.unknownForm other index)
where
  /-- A character above ASCII as an escape. -/
  escapeHigh (c : Char) : List Char :=
    if c.toNat < 0x80 then [c]
    else if c.toNat < 0x100 then '\\' :: 'x' :: Text.hexDigits 2 c.toNat
    else if c.toNat < 0x10000 then '\\' :: 'u' :: Text.hexDigits 4 c.toNat
    else '\\' :: 'U' :: Text.hexDigits 8 c.toNat

/-! ## Reading one place -/

/-- The key of a place, up to the parenthesis that closes it, and the rest. -/
def takeKey : Nat → List Char → Option (List Char × List Char)
  | _, [] => none
  | depth, c :: rest =>
    if c = ')' ∧ depth = 0 then some ([], rest)
    else
      let depth := if c = '(' then depth + 1 else if c = ')' then depth - 1 else depth
      (takeKey depth rest).map fun (key, rest) => (c :: key, rest)

/-- The flags of a place, and the rest. -/
def takeFlags (f : FieldFormat) : List Char → FieldFormat × List Char
  | '-' :: rest => takeFlags { f with leftAligned := true } rest
  | '+' :: rest => takeFlags { f with plus := true } rest
  | ' ' :: rest => takeFlags { f with blank := true } rest
  | '#' :: rest => takeFlags { f with alternate := true } rest
  | '0' :: rest => takeFlags { f with zeros := true } rest
  | rest => (f, rest)

/-- A width or precision: digits, or a star for the next argument. -/
def takeCount (count : PlaceCount) (args : TemplateArguments) (cs : List Char) :
    Except TemplateFault (Option Int × TemplateArguments × List Char) :=
  match cs with
  | '*' :: rest => do
    let (arg, args) ← args.next?
    match arg with
    | .int i =>
      if -(count.limit : Int) ≤ i ∧ i < count.limit then return (some i, args, rest)
      else throw (.argumentTooLarge count)
    | .bool b => return (some b.toNat, args, rest)
    | _ => throw .widthNotWhole
  | _ =>
    let digits := cs.takeWhile Char.isDigit
    let number := digitsValue digits
    if digits = [] then .ok (none, args, cs)
    else if number < count.limit then .ok (some number, args, cs.dropWhile Char.isDigit)
    else .error (.writtenTooLarge count)

/-- The format of a place in front of its form, and the rest. A negative width means that blanks go
    behind the text. -/
def takeFormat (args : TemplateArguments) (cs : List Char) :
    Except TemplateFault (FieldFormat × TemplateArguments × List Char) := do
  let (f, rest) := takeFlags {} cs
  let (width, args, rest) ← takeCount .width args rest
  let width := width.getD 0
  let f := { f with width := width.natAbs, leftAligned := f.leftAligned || width < 0 }
  let (f, args, rest) ← match rest with
    | '.' :: rest => do
      let (precision, args, rest) ← takeCount .precision args rest
      pure ({ f with precision := some (precision.getD 0).toNat }, args, rest)
    | _ => pure (f, args, rest)
  match rest with
  | c :: rest' => return (f, args, if c == 'h' || c == 'l' || c == 'L' then rest' else rest)
  | [] => return (f, args, rest)

/-- The width that is filled up: none for one that is beyond all memory. -/
def builtWidth (f : FieldFormat) : Nat := if f.width < Text.noRoom then f.width else 0

/-- Fills the place behind a percent sign. The rest of the template and the arguments left over are
    returned with the text. -/
def place (length : Nat) (args : TemplateArguments) (cs : List Char) :
    Except TemplateFault (List Char × TemplateArguments × List Char) := do
  let (args, cs) ← match cs with
    | '(' :: rest =>
      if args.keyed.isNone then throw .mappingNeeded
      else match takeKey 0 rest with
        | none => throw .incompleteKey
        | some (key, rest) => pure (← args.select? (String.ofList key), rest)
    | _ => pure (args, cs)
  let (f, args, rest) ← takeFormat args cs
  match rest with
  | [] => throw .incomplete
  | form :: rest =>
    let (arg, args) ← args.next?
    let text ← fillPlace form (length - rest.length - 1) { f with width := builtWidth f } arg
    if builtWidth f < f.width then throw .noRoom
    return (text, args, rest)

/-- Fills a template that has `fuel` characters at most. -/
def fillFrom (length : Nat) :
    Nat → TemplateArguments → List Char → Except TemplateFault (List Char)
  | _, args, [] => do
    args.finish
    return []
  | 0, _, cs => .ok cs
  | fuel + 1, args, '%' :: '%' :: rest => do return '%' :: (← fillFrom length fuel args rest)
  | fuel + 1, args, '%' :: rest => do
    let (text, args, rest) ← place length args rest
    return text ++ (← fillFrom length fuel args rest)
  | fuel + 1, args, c :: rest => do return c :: (← fillFrom length fuel args rest)

end Template

/-- A template filled with arguments. -/
def Template.render (template : String) (args : Value) : Except TemplateFault String :=
  let cs := template.toList
  (Template.fillFrom cs.length cs.length (.ofValue args) cs).map String.ofList

end TermSheet
