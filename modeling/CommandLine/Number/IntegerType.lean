/-! The ten integer types a field may have: a width in bits and a sign. -/

namespace CommandLine

inductive IntegerType
  | isize | i8 | i16 | i32 | i64
  | usize | u8 | u16 | u32 | u64
  deriving DecidableEq, Repr

namespace IntegerType

def all : List IntegerType :=
  [isize, i8, i16, i32, i64, usize, u8, u16, u32, u64]

def name : IntegerType → String
  | isize => "isize"
  | i8 => "i8"
  | i16 => "i16"
  | i32 => "i32"
  | i64 => "i64"
  | usize => "usize"
  | u8 => "u8"
  | u16 => "u16"
  | u32 => "u32"
  | u64 => "u64"

def ofName? (s : String) : Option IntegerType :=
  all.find? fun t => t.name = s

def bits : IntegerType → Nat
  | i8 | u8 => 8
  | i16 | u16 => 16
  | i32 | u32 => 32
  | isize | i64 | usize | u64 => 64

def isSigned : IntegerType → Bool
  | isize | i8 | i16 | i32 | i64 => true
  | usize | u8 | u16 | u32 | u64 => false

def least (t : IntegerType) : Int :=
  if t.isSigned then -(Nat.pow 2 (t.bits - 1)) else 0

def greatest (t : IntegerType) : Int :=
  if t.isSigned then Nat.pow 2 (t.bits - 1) - 1 else Nat.pow 2 t.bits - 1

def Holds (t : IntegerType) (n : Int) : Prop :=
  t.least ≤ n ∧ n ≤ t.greatest

instance (t : IntegerType) (n : Int) : Decidable (t.Holds n) :=
  inferInstanceAs (Decidable (_ ∧ _))

end IntegerType

end CommandLine
