/-
The text forms of IP addresses: dotted decimals, and IPv6 addresses as eight groups of one to four
hexadecimal digits, where `::` stands for a run of zero groups and the last 32 bits may be a dotted
decimal. The grammar of the texts, and a reader that reads exactly them.
-/
import Mathlib.Data.List.Basic
import Mathlib.Tactic.Common

namespace Text.Ip

/-! ## Dotted decimals -/

/-- A decimal without leading zeros, up to 255. -/
def readOctet (cs : List Char) : Option Nat :=
  if Nat.ofDigitChars 10 cs 0 ≤ 255 ∧ cs = Nat.toDigits 10 (Nat.ofDigitChars 10 cs 0) then
    some (Nat.ofDigitChars 10 cs 0)
  else none

/-- The four decimals of an address and its two groups. -/
structure Dotted (cs : List Char) (gs : List Nat) : Prop where
  exists_octets : ∃ a b c d : Nat, (a ≤ 255 ∧ b ≤ 255 ∧ c ≤ 255 ∧ d ≤ 255) ∧
    cs = ['.'].intercalate [Nat.toDigits 10 a, Nat.toDigits 10 b, Nat.toDigits 10 c, Nat.toDigits 10 d] ∧
      gs = [256 * a + b, 256 * c + d]

def readDotted (cs : List Char) : Option (List Nat) :=
  match cs.splitOn '.' with
  | [a, b, c, d] => do return [256 * (← readOctet a) + (← readOctet b), 256 * (← readOctet c) + (← readOctet d)]
  | _ => none

theorem readOctet_eq_some {cs : List Char} {n : Nat} : readOctet cs = some n ↔ n ≤ 255 ∧ cs = Nat.toDigits 10 n := by
  unfold readOctet
  constructor
  · intro h
    split at h
    · rename_i hc; cases h; exact hc
    · cases h
  · rintro ⟨hn, rfl⟩
    have hread : Nat.ofDigitChars 10 (Nat.toDigits 10 n) 0 = n := by simp
    rw [hread, if_pos ⟨hn, rfl⟩]

/-- A decimal has digits only. -/
theorem not_mem_toDigits {c : Char} (hc : c.isDigit = false) (n : Nat) : c ∉ Nat.toDigits 10 n := by
  intro h
  rw [Nat.isDigit_of_mem_toDigits (by decide) (by decide) h] at hc
  cases hc

theorem readDotted_eq_some {cs : List Char} {gs : List Nat} : readDotted cs = some gs ↔ Dotted cs gs := by
  unfold readDotted
  constructor
  · intro h
    split at h
    · rename_i a b c d hsplit
      simp only [Option.bind_eq_bind, Option.bind_eq_some_iff, Option.pure_def, Option.some.injEq,
        readOctet_eq_some] at h
      obtain ⟨a', ⟨ha, rfl⟩, b', ⟨hb, rfl⟩, c', ⟨hc, rfl⟩, d', ⟨hd, rfl⟩, rfl⟩ := h
      exact ⟨a', b', c', d', ⟨ha, hb, hc, hd⟩, by rw [← hsplit, List.intercalate_splitOn], rfl⟩
    · cases h
  · rintro ⟨a, b, c, d, ⟨ha, hb, hc, hd⟩, rfl, rfl⟩
    have hdot : ∀ l ∈ [Nat.toDigits 10 a, Nat.toDigits 10 b, Nat.toDigits 10 c, Nat.toDigits 10 d], '.' ∉ l := by
      intro l hl
      simp only [List.mem_cons, List.not_mem_nil, or_false] at hl
      rcases hl with rfl | rfl | rfl | rfl <;> exact not_mem_toDigits rfl _
    rw [List.splitOn_intercalate _ hdot (List.cons_ne_nil _ _)]
    simp only [readOctet_eq_some.2 ⟨ha, rfl⟩, readOctet_eq_some.2 ⟨hb, rfl⟩, readOctet_eq_some.2 ⟨hc, rfl⟩,
      readOctet_eq_some.2 ⟨hd, rfl⟩]
    rfl

/-! ## Groups -/

def hexVal (c : Char) : Option Nat :=
  if '0' ≤ c ∧ c ≤ '9' then some (c.toNat - '0'.toNat)
  else if 'a' ≤ c ∧ c ≤ 'f' then some (c.toNat - 'a'.toNat + 10)
  else if 'A' ≤ c ∧ c ≤ 'F' then some (c.toNat - 'A'.toNat + 10)
  else none

/-- Hexadecimal digits after a value. -/
def readHex : List Char → Nat → Option Nat
  | [], n => some n
  | c :: cs, n => do readHex cs (16 * n + (← hexVal c))

/-- One to four hexadecimal digits, padded with zeros or not. -/
def hexGroup (cs : List Char) : Option Nat := if 1 ≤ cs.length ∧ cs.length ≤ 4 then readHex cs 0 else none

/-- Groups between colons; the last two may be a dotted decimal. -/
inductive Groups (v4 : Bool) : List Char → List Nat → Prop
  | hex {cs : List Char} {n : Nat} : hexGroup cs = some n → Groups v4 cs [n]
  | dotted {cs : List Char} {gs : List Nat} : v4 = true → Dotted cs gs → Groups v4 cs gs
  | cons {cs cs' : List Char} {n : Nat} {ns : List Nat} : hexGroup cs = some n → Groups v4 cs' ns →
      Groups v4 (cs ++ ':' :: cs') (n :: ns)

def readGroups (v4 : Bool) : List (List Char) → Option (List Nat)
  | [] => none
  | [p] =>
    match hexGroup p with
    | some n => some [n]
    | none => if v4 then readDotted p else none
  | p :: ps => do return (← hexGroup p) :: (← readGroups v4 ps)

theorem hexVal_of_readHex {cs : List Char} : ∀ {m n : Nat}, readHex cs m = some n → ∀ c ∈ cs, (hexVal c).isSome := by
  induction cs with
  | nil => exact fun _ c hc => absurd hc List.not_mem_nil
  | cons c cs ih =>
    intro m n h
    obtain ⟨v, hv, h⟩ := Option.bind_eq_some_iff.1 h
    exact List.forall_mem_cons.2 ⟨by rw [hv]; rfl, ih h⟩

/-- A group is not empty and has hexadecimal digits only. -/
theorem hexGroup_eq_some {cs : List Char} {n : Nat} (h : hexGroup cs = some n) :
    cs ≠ [] ∧ ∀ c ∈ cs, (hexVal c).isSome := by
  unfold hexGroup at h
  split at h
  · rename_i hlen
    refine ⟨?_, hexVal_of_readHex h⟩
    rintro rfl
    exact absurd hlen.1 (by decide)
  · cases h

theorem colon_not_mem_hexGroup {cs : List Char} {n : Nat} (h : hexGroup cs = some n) : ':' ∉ cs := fun hc =>
  absurd ((hexGroup_eq_some h).2 _ hc) (by decide)

theorem not_mem_dotted {cs : List Char} {gs : List Nat} (h : Dotted cs gs) {c : Char} (hc : c.isDigit = false)
    (hdot : c ≠ '.') : c ∉ cs := by
  obtain ⟨w, x, y, z, -, rfl, -⟩ := h
  simp [List.intercalate, List.intersperse, not_mem_toDigits hc, hdot]

/-- A dotted decimal is no group. -/
theorem hexGroup_dotted {cs : List Char} {gs : List Nat} (h : Dotted cs gs) : hexGroup cs = none := by
  have hdot : '.' ∈ cs := by
    obtain ⟨w, x, y, z, -, rfl, -⟩ := h
    simp [List.intercalate, List.intersperse]
  by_contra hsome
  obtain ⟨n, hn⟩ := Option.ne_none_iff_exists'.1 hsome
  exact absurd ((hexGroup_eq_some hn).2 _ hdot) (by decide)

theorem groups_of_read {v4 : Bool} : ∀ {ps : List (List Char)} {ns : List Nat}, readGroups v4 ps = some ns →
    Groups v4 ([':'].intercalate ps) ns
  | [], _, h => by cases h
  | [p], ns, h => by
    have hone : [':'].intercalate [p] = p := by simp [List.intercalate, List.intersperse]
    rw [hone]
    unfold readGroups at h
    split at h
    · rename_i n hn; cases h; exact .hex hn
    · split at h
      · rename_i hv; exact .dotted hv (readDotted_eq_some.1 h)
      · cases h
  | p :: q :: ps, ns, h => by
    obtain ⟨n, hn, h⟩ := Option.bind_eq_some_iff.1 h
    obtain ⟨ns', hns, h⟩ := Option.bind_eq_some_iff.1 h
    cases h
    have hcons : [':'].intercalate (p :: q :: ps) = p ++ ':' :: [':'].intercalate (q :: ps) := by
      simp [List.intercalate, List.intersperse]
    rw [hcons]
    exact .cons hn (groups_of_read hns)

theorem readGroups_splitOn {v4 : Bool} {cs : List Char} {ns : List Nat} (h : Groups v4 cs ns) :
    readGroups v4 (cs.splitOn ':') = some ns := by
  induction h with
  | hex hn => rw [List.splitOn_eq_singleton (colon_not_mem_hexGroup hn), readGroups, hn]
  | dotted hv hd =>
    rw [List.splitOn_eq_singleton (not_mem_dotted hd rfl (by decide)), readGroups, hexGroup_dotted hd, if_pos hv]
    exact readDotted_eq_some.2 hd
  | @cons cs cs' n ns hn _ ih =>
    rw [List.splitOn_append_cons_self_of_not_mem (colon_not_mem_hexGroup hn)]
    obtain ⟨p, ps, hps⟩ := List.exists_cons_of_ne_nil (List.splitOn_ne_nil ':' cs')
    rw [hps] at ih ⊢
    rw [readGroups, hn, ih]
    · rfl
    · exact List.cons_ne_nil _ _

theorem readGroups_eq_some {v4 : Bool} {cs : List Char} {ns : List Nat} :
    readGroups v4 (cs.splitOn ':') = some ns ↔ Groups v4 cs ns := by
  constructor
  · intro h
    have hgroups := groups_of_read h
    rwa [List.intercalate_splitOn] at hgroups
  · exact readGroups_splitOn

/-! ## Addresses -/

/-- The groups on one side of a `::`, possibly none. -/
def Side (v4 : Bool) (cs : List Char) (gs : List Nat) : Prop := cs = [] ∧ gs = [] ∨ Groups v4 cs gs

/-- The eight groups of an IPv6 address text. -/
inductive Address : List Char → List Nat → Prop
  | full {cs : List Char} {gs : List Nat} : Groups true cs gs → gs.length = 8 → Address cs gs
  | compressed {l r : List Char} {left right : List Nat} : Side false l left → Side true r right →
      left.length + right.length ≤ 7 →
      Address (l ++ ':' :: ':' :: r) (left ++ List.replicate (8 - (left.length + right.length)) 0 ++ right)

/-- The texts before and after the first `::`. -/
def cutDouble : List Char → Option (List Char × List Char)
  | [] => none
  | [_] => none
  | c :: d :: cs =>
    if c = ':' ∧ d = ':' then some ([], cs) else (cutDouble (d :: cs)).map fun p => (c :: p.1, p.2)

def readSide (v4 : Bool) (cs : List Char) : Option (List Nat) :=
  if cs = [] then some [] else readGroups v4 (cs.splitOn ':')

def readAddress (cs : List Char) : Option (List Nat) :=
  match cutDouble cs with
  | none => (readGroups true (cs.splitOn ':')).filter (·.length = 8)
  | some (l, r) => do
    let left ← readSide false l
    let right ← readSide true r
    if left.length + right.length ≤ 7 then
      some (left ++ List.replicate (8 - (left.length + right.length)) 0 ++ right)
    else none

theorem eq_of_cutDouble : ∀ {cs l r : List Char}, cutDouble cs = some (l, r) → cs = l ++ ':' :: ':' :: r
  | [], _, _, h => by cases h
  | [_], _, _, h => by cases h
  | c :: d :: cs, l, r, h => by
    unfold cutDouble at h
    split at h
    · rename_i hc; cases h; rw [hc.1, hc.2]; rfl
    · obtain ⟨⟨l', r'⟩, hp, h⟩ := Option.map_eq_some_iff.1 h
      cases h
      rw [eq_of_cutDouble hp]; rfl

/-- A `::` after a character that is no colon. -/
theorem cutDouble_cons {c : Char} (hc : c ≠ ':') (cs : List Char) :
    cutDouble (c :: cs) = (cutDouble cs).map fun p => (c :: p.1, p.2) := by
  cases cs with
  | nil => rfl
  | cons d ds => rw [cutDouble, if_neg fun h => hc h.1]

theorem cutDouble_append {p : List Char} (hp : ':' ∉ p) (cs : List Char) :
    cutDouble (p ++ cs) = (cutDouble cs).map fun q => (p ++ q.1, q.2) := by
  induction p with
  | nil => simp
  | cons c p ih =>
    rw [List.mem_cons, not_or] at hp
    rw [List.cons_append, cutDouble_cons (Ne.symm hp.1), ih hp.2, Option.map_map]
    rfl

/-- A text between colons starts with a character that is none. -/
theorem Groups.head {v4 : Bool} {cs : List Char} {ns : List Nat} (h : Groups v4 cs ns) : ∃ c cs', cs = c :: cs' ∧
    c ≠ ':' := by
  have hhex : ∀ {cs : List Char} {n : Nat}, hexGroup cs = some n → ∃ c cs', cs = c :: cs' ∧ c ≠ ':' := by
    intro cs n hn
    obtain ⟨c, cs', rfl⟩ := List.exists_cons_of_ne_nil (hexGroup_eq_some hn).1
    exact ⟨c, cs', rfl, fun hc => colon_not_mem_hexGroup hn (hc ▸ List.mem_cons_self ..)⟩
  cases h with
  | hex hn => exact hhex hn
  | dotted _ hd =>
    have hcolon := not_mem_dotted hd (c := ':') rfl (by decide)
    have hne : cs ≠ [] := by
      obtain ⟨w, x, y, z, -, rfl, -⟩ := hd
      simp [List.intercalate, List.intersperse]
    obtain ⟨c, cs', rfl⟩ := List.exists_cons_of_ne_nil hne
    exact ⟨c, cs', rfl, fun hc => hcolon (hc ▸ List.mem_cons_self ..)⟩
  | @cons p cs' n ns hn _ =>
    obtain ⟨c, p', rfl, hc⟩ := hhex hn
    exact ⟨c, _, rfl, hc⟩

/-- Groups have no `::`, so the first one comes after them. -/
theorem cutDouble_groups {v4 : Bool} {cs : List Char} {ns : List Nat} (h : Groups v4 cs ns) :
    cutDouble cs = none ∧ ∀ r, cutDouble (cs ++ ':' :: ':' :: r) = some (cs, r) := by
  have hfree : ∀ {p : List Char}, ':' ∉ p → cutDouble p = none ∧
    ∀ r, cutDouble (p ++ ':' :: ':' :: r) = some (p, r) := by
    intro p hp
    constructor
    · have hnil := cutDouble_append hp []
      rwa [List.append_nil] at hnil
    · intro r
      rw [cutDouble_append hp, cutDouble, if_pos ⟨rfl, rfl⟩, Option.map_some, List.append_nil]
  induction h with
  | hex hn => exact hfree (colon_not_mem_hexGroup hn)
  | dotted _ hd => exact hfree (not_mem_dotted hd rfl (by decide))
  | @cons p cs' n ns hn hrest ih =>
    obtain ⟨hnone, hcut⟩ := ih
    obtain ⟨c, cs', rfl, hc⟩ := hrest.head
    have hp := colon_not_mem_hexGroup hn
    have hsep : ∀ x, cutDouble (':' :: c :: x) = (cutDouble (c :: x)).map fun q => (':' :: q.1, q.2) := fun x => by
      rw [cutDouble, if_neg fun h => hc h.2]
    constructor
    · rw [cutDouble_append hp, hsep, hnone]; rfl
    · intro r
      rw [List.append_assoc, cutDouble_append hp, List.cons_append, List.cons_append, hsep, ← List.cons_append, hcut]
      rfl

theorem readSide_eq_some {v4 : Bool} {cs : List Char} {gs : List Nat} : readSide v4 cs = some gs ↔ Side v4 cs gs := by
  unfold readSide Side
  constructor
  · intro h
    split at h
    · rename_i hnil; cases h; exact .inl ⟨hnil, rfl⟩
    · exact .inr (readGroups_eq_some.1 h)
  · rintro (⟨rfl, rfl⟩ | h)
    · rfl
    · obtain ⟨c, cs', rfl, -⟩ := h.head
      rw [if_neg (List.cons_ne_nil _ _)]
      exact readGroups_eq_some.2 h

theorem cutDouble_side {v4 : Bool} {l : List Char} {gs : List Nat} (h : Side v4 l gs) (r : List Char) :
    cutDouble (l ++ ':' :: ':' :: r) = some (l, r) := by
  rcases h with ⟨rfl, -⟩ | h
  · rfl
  · exact (cutDouble_groups h).2 r

/-- The reader reads the texts of the grammar and no others. -/
theorem readAddress_eq_some {cs : List Char} {gs : List Nat} : readAddress cs = some gs ↔ Address cs gs := by
  constructor
  · intro h
    unfold readAddress at h
    split at h
    · rw [Option.filter_eq_some_iff] at h
      exact .full (readGroups_eq_some.1 h.1) (of_decide_eq_true h.2)
    · rename_i l r hcut
      obtain ⟨left, hleft, h⟩ := Option.bind_eq_some_iff.1 h
      obtain ⟨right, hright, h⟩ := Option.bind_eq_some_iff.1 h
      split at h
      · rename_i hlen
        cases h
        rw [eq_of_cutDouble hcut]
        exact .compressed (readSide_eq_some.1 hleft) (readSide_eq_some.1 hright) hlen
      · cases h
  · intro h
    unfold readAddress
    cases h with
    | full hg hlen =>
      rw [(cutDouble_groups hg).1]
      exact Option.filter_eq_some_iff.2 ⟨readGroups_eq_some.2 hg, decide_eq_true hlen⟩
    | @compressed l r left right hl hr hlen =>
      rw [cutDouble_side hl]
      simp only [readSide_eq_some.2 hl, readSide_eq_some.2 hr, Option.bind_eq_bind, Option.bind_some]
      rw [if_pos hlen]

/-! ## Literals -/

/-- An IP literal, as the groups of an IPv6 address; an IPv4 address is mapped. -/
inductive Literal (cs : List Char) : List Nat → Prop
  | v4 {gs : List Nat} : Dotted cs gs → Literal cs ([0, 0, 0, 0, 0, 0xffff] ++ gs)
  | v6 {gs : List Nat} : Address cs gs → Literal cs gs

end Text.Ip
