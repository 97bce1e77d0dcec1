import ForeignCall.Table
import ForeignCall.Text.CodePoint

/-! Values carried by payloads and calls. A float is its binary64 bits, a map its bindings in the
order of their keys' first appearance. -/

namespace ForeignCall

inductive Key where
  | text (value : Text)
  | bytes (value : List UInt8)
  deriving DecidableEq

inductive Datum where
  | null
  | bool (value : Bool)
  | int (value : Int)
  | float (bits : UInt64)
  | text (value : Text)
  | bytes (value : List UInt8)
  | list (items : List Datum)
  | map (fields : List (Key × Datum))
  | ext (code : Nat) (data : List UInt8)
  | timestamp (seconds : Int) (nanoseconds : Nat)

namespace Datum

instance : Inhabited Datum := ⟨.null⟩

def ofString (s : String) : Datum :=
  .text (Text.ofString s)

def field? (name : String) : Datum → Option Datum
  | .map fields => Table.get? (.text (Text.ofString name)) fields
  | _ => none

end Datum

end ForeignCall
