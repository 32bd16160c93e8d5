import Awe.Rust.Hex

/-! The values a serializer hands to a JSON writer. -/

namespace Rust

/-- A JSON document whose numbers are the unsigned integers a program stores. -/
inductive Json where
  | null
  | bool (value : Bool)
  | num (value : Nat)
  | str (value : String)
  | arr (items : List Json)
  | obj (fields : List (String × Json))

namespace Json

/-- A byte array is written as a list of numbers. -/
def ofBytes (bytes : Bytes) : Json := .arr (bytes.map fun byte => .num byte.toNat)

/-- An absent text is written as `null`. -/
def ofOptionString : Option String → Json
  | none => .null
  | some text => .str text

end Json

end Rust
