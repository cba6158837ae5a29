/-
The numerals that definitions of several modules share, by name: a definition with one then holds no proof of its own.
-/
import Mathlib.Data.Nat.Init

namespace Stats

instance atLeastTwo_2 : Nat.AtLeastTwo 2 := inferInstance
instance atLeastTwo_3 : Nat.AtLeastTwo 3 := inferInstance
instance atLeastTwo_5 : Nat.AtLeastTwo 5 := inferInstance
instance atLeastTwo_8 : Nat.AtLeastTwo 8 := inferInstance
instance atLeastTwo_9 : Nat.AtLeastTwo 9 := inferInstance
instance atLeastTwo_10 : Nat.AtLeastTwo 10 := inferInstance
instance atLeastTwo_50 : Nat.AtLeastTwo 50 := inferInstance
instance atLeastTwo_95 : Nat.AtLeastTwo 95 := inferInstance
instance atLeastTwo_99 : Nat.AtLeastTwo 99 := inferInstance
instance atLeastTwo_100 : Nat.AtLeastTwo 100 := inferInstance
instance atLeastTwo_150 : Nat.AtLeastTwo 150 := inferInstance
instance atLeastTwo_200 : Nat.AtLeastTwo 200 := inferInstance
instance atLeastTwo_500 : Nat.AtLeastTwo 500 := inferInstance
instance atLeastTwo_1000 : Nat.AtLeastTwo 1000 := inferInstance
instance atLeastTwo_5000 : Nat.AtLeastTwo 5000 := inferInstance

instance neZero_3 : @NeZero Nat (@Zero.ofOfNat0 Nat (instOfNatNat 0)) 3 := Nat.instNeZeroSucc

end Stats
