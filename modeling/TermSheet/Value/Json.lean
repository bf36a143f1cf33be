import TermSheet.Contract.Json
import TermSheet.Fault
import TermSheet.Value.Text

/-!
# Values as JSON values

Truth values, numbers, texts, lists and mappings have JSON forms of their own; currencies and
directions stand for their words. What happens to the other values depends on the use.

* A rendering for display replaces payments, contracts and settlements by objects, also inside
  lists, and refuses every other value.
* A rendering for the log writes days in ISO form and every other value in its plain form.

Results:
- `keyText?_text`: a text is its own key.
-/

namespace TermSheet

/-- Why a value has no JSON form. -/
inductive JsonFault
  | foreignLeaf (leaf : Value)
  | noForm (typeName : String)
  | noKey (typeName : String)
  | unshowable (fault : DisplayFault)
  | layout (fault : Json.LayoutFault)

/-- The wording of a fault. -/
def JsonFault.message : JsonFault → String
  | foreignLeaf leaf => illegalContractMessage leaf.typeName
  | noForm typeName => "Object of type " ++ typeName ++ " is not JSON serializable"
  | noKey typeName => "keys must be str, int, float, bool or None, not " ++ typeName
  | unshowable fault => fault.message
  | layout fault => fault.message

namespace Value

/-- A whole number, if it has a written form. -/
def intJson? (i : Int) : Except JsonFault Json :=
  match intText i with
  | .ok _ => .ok (.int i)
  | .error fault => .error (.unshowable fault)

/-- What a rendering does with the values that have no JSON form of their own, and how it names the
    type of a value that is no key. -/
structure Rendering where
  other : Value → Except JsonFault Json
  keyType : Value → String

/-- A key of a mapping as a text. -/
def keyText? (r : Rendering) : Value → Except JsonFault String
  | text s => .ok s
  | currency c => .ok c.code
  | direction d => .ok d.word
  | float x => .ok (Json.floatText x)
  | bool b => .ok (if b then "true" else "false")
  | none => .ok "null"
  | int i => (intText i).mapError JsonFault.unshowable
  | other => .error (.noKey (r.keyType other))

theorem keyText?_text (r : Rendering) (s : String) : keyText? r (text s) = .ok s := rfl

mutual

/-- The JSON form of a value. A settlement is the sequence of its payments and its residual. -/
def encode (r : Rendering) : Value → Except JsonFault Json
  | none => .ok .null
  | bool b => .ok (.bool b)
  | int i => intJson? i
  | float x => .ok (.float x)
  | text s => .ok (.text s)
  | currency c => .ok (.text c.code)
  | direction d => .ok (.text d.word)
  | list items => do return .array (← encodeList r items)
  | tuple items => do return .array (← encodeList r items)
  | dict entries => do return .object (← encodeEntries r entries)
  | settlement ⟨payments, residual⟩ => do
    let payments ← payments.mapM fun p => r.other (payment p)
    return .array [.array payments, ← encodeResidual r residual]
  | v => r.other v

/-- The JSON forms of the items of a list. -/
def encodeList (r : Rendering) : List Value → Except JsonFault (List Json)
  | [] => .ok []
  | item :: items => do return (← encode r item) :: (← encodeList r items)

/-- The fields for the entries of a mapping. -/
def encodeEntries (r : Rendering) :
    List (Value × Value) → Except JsonFault (List (String × Json))
  | [] => .ok []
  | (key, item) :: entries => do
    let name ← keyText? r key
    return (name, ← encode r item) :: (← encodeEntries r entries)

/-- The JSON form of a residual. -/
def encodeResidual (r : Rendering) : Contract Value → Except JsonFault Json
  | .foreign leaf => encode r leaf
  | c => r.other (contract c)

end

/-! ## For display -/

/-- The rendering in a layout. It refuses every other value. On one line, the type of a value that
    is no key is named with its module. -/
def displayed (layout : Json.Layout) : Rendering where
  other v := .error (.noForm v.typeName)
  keyType := if layout.isSome then typeName else qualifiedName

mutual

/-- The first foreign leaf of the contracts that a rendering for display replaces. -/
def foreignLeaf? : Value → Option Value
  | list items => foreignLeafList? items
  | tuple items => foreignLeafList? items
  | contract c => c.firstForeign?
  | settlement s => s.residual.firstForeign?
  | _ => Option.none

/-- The first foreign leaf in a list. -/
def foreignLeafList? : List Value → Option Value
  | [] => Option.none
  | item :: items => (foreignLeaf? item).or (foreignLeafList? items)

end

mutual

/-- The JSON form for display of a value whose contracts have no foreign leaf (`_to_plain`). -/
def displayForm (layout : Json.Layout) : Value → Except JsonFault Json
  | list items => do return .array (← displayList layout items)
  | tuple items => do return .array (← displayList layout items)
  | bytes octets => .ok (.array (octets.map fun octet => .int octet.toNat))
  | payment p => .ok p.toJson
  | contract c => c.toJson?.mapError JsonFault.foreignLeaf
  | settlement s => s.toJson?.mapError JsonFault.foreignLeaf
  | v => encode (displayed layout) v

/-- The JSON forms for display of the items of a list. -/
def displayList (layout : Json.Layout) : List Value → Except JsonFault (List Json)
  | [] => .ok []
  | item :: items => do return (← displayForm layout item) :: (← displayList layout items)

end

/-- Whether a value is displayed as a single text, for which the layout does not matter. -/
def isWord : Value → Bool
  | text _ | currency _ | direction _ => true
  | _ => false

/-- The JSON form for display. A foreign leaf anywhere is reported before any other fault, and then
    a layout that cannot be written. -/
def display (layout : Json.Layout) (v : Value) : Except JsonFault Json :=
  match v.foreignLeaf? with
  | some leaf => .error (.foreignLeaf leaf)
  | Option.none =>
    match layout.fault? with
    | some fault => if v.isWord then v.displayForm layout else .error (.layout fault)
    | Option.none => v.displayForm layout

/-- The JSON text for display (`to_json`). -/
def displayText (layout : Json.Layout) (v : Value) : Except JsonFault String :=
  (v.display layout).map (Json.render layout)

/-! ## For the log -/

/-- A day in ISO form, any other value in its plain form (`_JSONEncoder.default`). -/
def describe : Value → Except JsonFault Json
  | date d => .ok (.text d.text)
  | dateTime t => .ok (.text t.text)
  | v => (v.plain.map Json.text).mapError JsonFault.unshowable

/-- The rendering for the log. -/
def logged : Rendering := ⟨describe, qualifiedName⟩

/-- The JSON form for the log (`_JSONEncoder`). -/
def logForm (v : Value) : Except JsonFault Json := encode logged v

end Value

end TermSheet
