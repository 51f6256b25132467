import Keyhole.JsonDocument

/-!
# YAML documents as the validation reads them

What PyYAML's safe loader makes of a document is more than a JSON value: a plain
`2024-01-01` is a date, `!!binary` gives bytes, `!!set` a set, `!!omap` a list of
pairs, and a mapping may have any hashable key.  The validation looks at all of
these with `isinstance`, with truth values and with `for`, and each of the three
sorts them differently:

* `truthy` — Python's truth value;
* `elements` — what `for` walks, `none` where Python raises `TypeError`;
* `loadYamlSafe` — the SDK's reader, which returns a mapping or the text of what
  went wrong. -/

namespace KeyholeYaml

open KeyholeJson (join strip hexDigits)

/-- A value of PyYAML's safe loader. -/
inductive Yaml where
  | null
  | bool (b : Bool)
  | int (n : Int)
  | float (text : String)
  | str (s : String)
  /-- a `date` or a `datetime`: its type's name, its `str` and its `repr` -/
  | stamp (type shown repr : String)
  | bytes (content : List UInt8)
  | seq (items : List Yaml)
  /-- a tuple of two, the element of an `!!omap` -/
  | pair (key value : Yaml)
  | set (members : List Yaml)
  | map (entries : List (Yaml × Yaml))
  deriving Inhabited, Repr

/-- A mapping: its entries in insertion order. -/
abbrev Fields := List (Yaml × Yaml)

/-! ## Values -/

/-- Python's truth value. -/
def truthy : Yaml → Bool
  | .null => false
  | .bool b => b
  | .int n => n != 0
  | .float text => !(["0.0", "-0.0"].contains text)
  | .str s => s != ""
  | .stamp _ _ _ => true
  | .bytes content => !content.isEmpty
  | .seq items => !items.isEmpty
  | .pair _ _ => true
  | .set members => !members.isEmpty
  | .map entries => !entries.isEmpty

/-- What `for` walks; `none` for the values Python cannot iterate. -/
def elements : Yaml → Option (List Yaml)
  | .null => none
  | .bool _ => none
  | .int _ => none
  | .float _ => none
  | .stamp _ _ _ => none
  | .str s => some (s.toList.map fun c => .str (String.singleton c))
  | .bytes content => some (content.map fun b => .int b.toNat)
  | .seq items => some items
  | .pair key value => some [key, value]
  | .set members => some members
  | .map entries => some (entries.map Prod.fst)

/-- `isinstance(v, str)`. -/
def isText : Yaml → Bool
  | .str _ => true
  | _ => false

/-- `isinstance(v, list)`. -/
def isSeq : Yaml → Bool
  | .seq _ => true
  | _ => false

/-- `isinstance(v, dict)`. -/
def isMap : Yaml → Bool
  | .map _ => true
  | _ => false

/-- `v is None`. -/
def isNull : Yaml → Bool
  | .null => true
  | _ => false

/-- `type(v).__name__`. -/
def typeName : Yaml → String
  | .null => "NoneType"
  | .bool _ => "bool"
  | .int _ => "int"
  | .float _ => "float"
  | .str _ => "str"
  | .stamp type _ _ => type
  | .bytes _ => "bytes"
  | .seq _ => "list"
  | .pair _ _ => "tuple"
  | .set _ => "set"
  | .map _ => "dict"

/-- One byte inside the `repr` of a bytes value quoted with `quote`. -/
def reprByte (quote : Char) (b : UInt8) : List Char :=
  let c := Char.ofNat b.toNat
  if c = quote ∨ c = '\\' then ['\\', c]
  else if c = '\n' then ['\\', 'n']
  else if c = '\r' then ['\\', 'r']
  else if c = '\t' then ['\\', 't']
  else if b.toNat < 32 ∨ 127 ≤ b.toNat then '\\' :: 'x' :: hexDigits 2 b.toNat
  else [c]

/-- Python's `repr` of a bytes value. -/
def reprBytes (content : List UInt8) : String :=
  let quote := if content.contains 39 && !content.contains 34 then '\"' else '\''
  String.ofList ('b' :: quote :: content.flatMap (reprByte quote) ++ [quote])

mutual

/-- Python's `repr` of a value. -/
def pyRepr : Yaml → String
  | .null => "None"
  | .bool b => if b then "True" else "False"
  | .int n => toString n
  | .float text => text
  | .str s => KeyholeJson.reprStr s
  | .stamp _ _ repr => repr
  | .bytes content => reprBytes content
  | .seq items => "[" ++ join ", " (pyReprItems items) ++ "]"
  | .pair key value => "(" ++ pyRepr key ++ ", " ++ pyRepr value ++ ")"
  | .set [] => "set()"
  | .set (first :: rest) => "\x7b" ++ join ", " (pyRepr first :: pyReprItems rest) ++ "\x7d"
  | .map entries => "\x7b" ++ join ", " (pyReprEntries entries) ++ "\x7d"

/-- The parts of a list's `repr`. -/
def pyReprItems : List Yaml → List String
  | [] => []
  | v :: rest => pyRepr v :: pyReprItems rest

/-- The parts of a mapping's `repr`. -/
def pyReprEntries : List (Yaml × Yaml) → List String
  | [] => []
  | (k, v) :: rest => (pyRepr k ++ ": " ++ pyRepr v) :: pyReprEntries rest

end

/-- Python's `str`. -/
def pyStr : Yaml → String
  | .str s => s
  | .stamp _ shown _ => shown
  | v => pyRepr v

/-- `a or b`. -/
def orElse (a b : Yaml) : Yaml := if truthy a then a else b

/-! ## Mappings -/

/-- The value under the key `k`, `none` if there is no such key. -/
def Fields.find : Fields → String → Option Yaml
  | [], _ => none
  | (.str k', v) :: rest, k => if k = k' then some v else Fields.find rest k
  | _ :: rest, k => Fields.find rest k

/-- `k in d`. -/
def Fields.has (d : Fields) (k : String) : Bool := (Fields.find d k).isSome

/-- `d.get(k)`. -/
def Fields.get (d : Fields) (k : String) : Yaml := (Fields.find d k).getD .null

/-- `d.get(k, default)`. -/
def Fields.getOr (d : Fields) (k : String) (default : Yaml) : Yaml :=
  (Fields.find d k).getD default

@[simp] theorem find_nil (k : String) : Fields.find [] k = none := rfl

@[simp] theorem find_cons_str (k' : String) (v : Yaml) (d : Fields) (k : String) :
    Fields.find ((.str k', v) :: d) k = if k = k' then some v else Fields.find d k := rfl

theorem get_of_find {d : Fields} {k : String} {v : Yaml} (h : Fields.find d k = some v) :
    Fields.get d k = v := by
  rw [Fields.get, h]; rfl

theorem getOr_of_find {d : Fields} {k : String} {v default : Yaml}
    (h : Fields.find d k = some v) : Fields.getOr d k default = v := by
  rw [Fields.getOr, h]; rfl

theorem getOr_of_find_none {d : Fields} {k : String} {default : Yaml}
    (h : Fields.find d k = none) : Fields.getOr d k default = default := by
  rw [Fields.getOr, h]; rfl

/-! ## Reading a file -/

/-- A file of the repository, as `exists` and `read_text` find it. -/
inductive FileText where
  | missing
  /-- `read_text` raises -/
  | unreadable (why : String)
  | text (content : String)
  deriving Inhabited, Repr

/-- `path.exists()`. -/
def FileText.present : FileText → Bool
  | .missing => false
  | _ => true

/-- `yaml.safe_load`, with the text of the exception where it raises. -/
abbrev Loader := String → Except String Yaml

/-- What `load_yaml_safe` makes of the loader's answer. -/
def asMapping (name : String) : Except String Yaml → Except String Fields
  | .error why => .error ("YAML parse error in " ++ name ++ ": " ++ why)
  | .ok .null => .ok []
  | .ok (.map entries) => .ok entries
  | .ok v => .error ("Expected a YAML mapping at top level of " ++ name ++ ", got " ++ typeName v
      ++ ". Ensure the file is a key-value document.")

/-- `load_yaml_safe`, with the loader PyYAML provides, `none` when it cannot be
    imported. -/
def loadYamlSafe (yaml : Option Loader) (name : String) (file : FileText) :
    Except String Fields :=
  match file, yaml with
  | .missing, _ => .error ("File not found: " ++ name)
  | _, none => .error ("Cannot parse " ++ name
      ++ ": pyyaml is not installed. Install with: pip install pyyaml")
  | .unreadable why, some _ => .error ("YAML parse error in " ++ name ++ ": " ++ why)
  | .text content, some safeLoad =>
      if strip content = "" then .ok [] else asMapping name (safeLoad content)

end KeyholeYaml
