/-!
# Scalar types

The types without parts: truth values, integers of a fixed width, binary floating point, texts and byte
strings.
-/

namespace SchemaBindings

inductive Scalar where
  | bool
  | u8
  | u16
  | u32
  | u64
  | u128
  | i8
  | i16
  | i32
  | i64
  | i128
  | f32
  | f64
  | string
  | bytes
deriving DecidableEq, Repr

namespace Scalar

/-- The scalar types, in the order in which messages list them. -/
def all : List Scalar :=
  [bool, u8, u16, u32, u64, u128, i8, i16, i32, i64, i128, f32, f64, string, bytes]

def name : Scalar → String
  | bool => "bool"
  | u8 => "u8"
  | u16 => "u16"
  | u32 => "u32"
  | u64 => "u64"
  | u128 => "u128"
  | i8 => "i8"
  | i16 => "i16"
  | i32 => "i32"
  | i64 => "i64"
  | i128 => "i128"
  | f32 => "f32"
  | f64 => "f64"
  | string => "string"
  | bytes => "bytes"

def ofName? (name : String) : Option Scalar :=
  all.find? (·.name == name)

/-- The width in bits; texts and byte strings have none. -/
def bitWidth? : Scalar → Option Nat
  | bool => some 1
  | u8 | i8 => some 8
  | u16 | i16 => some 16
  | u32 | i32 | f32 => some 32
  | u64 | i64 | f64 => some 64
  | u128 | i128 => some 128
  | string | bytes => none

/-- Whether the type holds negative numbers. -/
def isSigned : Scalar → Bool
  | i8 | i16 | i32 | i64 | i128 | f32 | f64 => true
  | _ => false

def isInteger : Scalar → Bool
  | u8 | u16 | u32 | u64 | u128 | i8 | i16 | i32 | i64 | i128 => true
  | _ => false

def isFloat : Scalar → Bool
  | f32 | f64 => true
  | _ => false

theorem mem_all (s : Scalar) : s ∈ all := by cases s <;> decide

theorem ofName?_name (s : Scalar) : ofName? s.name = some s := by cases s <;> decide +kernel

end Scalar

end SchemaBindings
