/-
The block style of YAML with scalars that are written plain and on one line: mappings and sequences nested
by their columns, and comments. Quoted texts, flow collections, anchors, tags and scalars that go on on the
next line are beyond what is read here.
-/
import DioServe.Text.Lines

namespace Text.BlockYaml

/-- Why a text has no tree: YAML refuses it, or it is beyond the style read here. -/
inductive Stop
  | refused | beyond
  deriving DecidableEq

inductive Tok
  | dash
  | key (cs : List Char)
  | scalar (cs : List Char)
  deriving DecidableEq

/-- A token with its column. -/
abbrev Placed := Nat × Tok

/-! ## Plain scalars -/

/-- What comes next ends a token: a blank, a tab or the end of the line. -/
def ends : List Char → Bool
  | [] => true
  | c :: _ => c = ' ' || c = '\t'

/-- The characters a plain scalar does not start with. -/
def indicators : List Char :=
  ['-', '?', ':', ',', '[', ']', '\x7b', '\x7d', '#', '&', '*', '!', '|', '>', '\'', '"', '%', '@', '\x60']

def startsPlain : List Char → Bool
  | [] => false
  | c :: cs => if c = '-' ∨ c = '?' ∨ c = ':' then !ends cs else c ∉ indicators && c ≠ ' ' && c ≠ '\t'

/-- A plain scalar ends at a tab, at a colon that ends a key and at a comment. -/
def scanPlain : List Char → List Char × List Char
  | [] => ([], [])
  | c :: cs =>
    if c = '\t' ∨ c = ':' ∧ ends cs = true ∨ c = ' ' ∧ cs.head? = some '#' then ([], c :: cs)
    else (c :: (scanPlain cs).1, (scanPlain cs).2)

/-- The blanks at the end are not part of a scalar. -/
def trimBlanks (cs : List Char) : List Char := (cs.reverse.dropWhile (· = ' ')).reverse

/-- A text that is one plain scalar. -/
structure IsPlain (cs : List Char) : Prop where
  starts : startsPlain cs = true
  scan : scanPlain cs = (cs, [])
  trimmed : trimBlanks cs = cs

instance (cs : List Char) : Decidable (IsPlain cs) :=
  decidable_of_iff (startsPlain cs = true ∧ scanPlain cs = (cs, []) ∧ trimBlanks cs = cs)
    ⟨fun ⟨h₁, h₂, h₃⟩ => ⟨h₁, h₂, h₃⟩, fun h => ⟨h.starts, h.scan, h.trimmed⟩⟩

/-! ## The tokens of a line -/

/-- The value after a key, on the same line. -/
def value (col : Nat) : List Char → Except Stop (List Placed)
  | [] => .ok []
  | c :: cs =>
    if c = ' ' then value (col + 1) cs
    else if c = '#' then .ok []
    else if c = '\t' then .error .refused
    else if startsPlain (c :: cs) then
      match scanPlain (c :: cs) with
      | (s, []) | (s, ' ' :: _) => .ok [(col, .scalar (trimBlanks s))]
      | _ => .error .refused
    else .error .beyond

/-- The tokens of a line from a column on. A key has at most 1024 characters. -/
def tokens (col : Nat) : List Char → Except Stop (List Placed)
  | [] => .ok []
  | c :: cs =>
    if c = ' ' then tokens (col + 1) cs
    else if c = '#' then .ok []
    else if c = '\t' then .error .refused
    else if c = '-' ∧ ends cs = true then do return (col, .dash) :: (← tokens (col + 1) cs)
    else if startsPlain (c :: cs) then
      match scanPlain (c :: cs) with
      | (s, []) | (s, ' ' :: _) => .ok [(col, .scalar (trimBlanks s))]
      | (s, ':' :: rest) =>
        if 1024 < s.length then .error .refused
        else do return (col, .key (trimBlanks s)) :: (← value (col + s.length + 1) rest)
      | _ => .error .refused
    else .error .beyond

/-- The tokens of the lines; the markers of documents are beyond. -/
def lineTokens : List (List Char) → Except Stop (List Placed)
  | [] => .ok []
  | l :: ls =>
    if l.take 3 = "---".toList ∨ l.take 3 = "...".toList then .error .beyond
    else do return (← tokens 0 l) ++ (← lineTokens ls)

/-! ## Nesting -/

/-- The tokens at a column with those under each, further right; and the tokens before the first of them. -/
def groups (col : Nat) : List Placed → Option (List Placed × List (Tok × List Placed))
  | [] => some ([], [])
  | (c, t) :: rest => do
    let (under, gs) ← groups col rest
    if c = col then some ([], (t, under) :: gs) else if col < c then some ((c, t) :: under, gs) else none

/-- All results, or the first error. -/
def readEach {α β : Type} (f : α → Except Stop β) : List α → Except Stop (List β)
  | [] => .ok []
  | x :: xs => do return (← f x) :: (← readEach f xs)

section Parse

variable {α : Type} (leaf : List Char → Except Stop α) (seq : List α → α) (map : List (List Char × α) → Except Stop α)

def dashed (under : List Placed → Except Stop α) : Tok × List Placed → Except Stop α
  | (.dash, kids) => under kids
  | _ => .error .beyond

def keyed (under : List Placed → Except Stop α) : Tok × List Placed → Except Stop (List Char × α)
  | (.key k, kids) => do return (k, ← under kids)
  | _ => .error .beyond

/-- The value of nested tokens: a scalar, the sequence of what is under dashes, the mapping of what is under
keys. No token at all is an empty scalar. -/
def parse : Nat → List Placed → Except Stop α
  | _, [] => leaf []
  | 0, _ => .error .beyond
  | n + 1, (c, t) :: rest =>
    match t, groups c ((c, t) :: rest) with
    | .scalar s, _ => if rest = [] then leaf s else .error .beyond
    | .dash, some ([], gs) => do return seq (← readEach (dashed (parse n)) gs)
    | .key _, some ([], gs) => do map (← readEach (keyed (parse n)) gs)
    | _, _ => .error .beyond

/-- The characters a stream may have in it. -/
def isPrintable (c : Char) : Bool :=
  c = '\t' || c = '\n' || c = '\r' || 0x20 ≤ c.toNat && c.toNat ≤ 0x7E || c.toNat = 0x85 ||
    0xA0 ≤ c.toNat && c.toNat ≤ 0xD7FF || 0xE000 ≤ c.toNat && c.toNat ≤ 0xFFFD || 0x10000 ≤ c.toNat

/-- The line breaks other than the newline. -/
def otherBreaks : List Char := ['\r', '\u0085', '\u2028', '\u2029']

/-- The value of a text. -/
def read (text : List Char) : Except Stop α :=
  if text.all isPrintable = false then .error .refused
  else if text.any (· ∈ otherBreaks) then .error .beyond
  else do
    let toks ← lineTokens ((Lines.lines text).1 ++ [(Lines.lines text).2])
    parse leaf seq map (toks.length + 1) toks

end Parse

/-! ## Scanning -/

theorem scanPlain_append (cs : List Char) : (scanPlain cs).1 ++ (scanPlain cs).2 = cs := by
  induction cs with
  | nil => rfl
  | cons c cs ih =>
    unfold scanPlain
    split
    · rfl
    · rw [List.cons_append, ih]

/-- Ordinary characters are scanned over. -/
theorem scanPlain_run {w : List Char} (hw : ∀ c ∈ w, c ≠ '\t' ∧ c ≠ ':' ∧ c ≠ ' ') (rest : List Char) :
    scanPlain (w ++ rest) = (w ++ (scanPlain rest).1, (scanPlain rest).2) := by
  induction w with
  | nil => rfl
  | cons c w ih =>
    obtain ⟨⟨htab, hcolon, hblank⟩, hw⟩ := List.forall_mem_cons.1 hw
    rw [List.cons_append, scanPlain, if_neg, ih hw]
    · rfl
    · rintro (h | h | h)
      · exact htab h
      · exact hcolon h.1
      · exact hblank h.1

theorem trimBlanks_of_last {cs : List Char} (h : ∀ c ∈ cs.getLast?, c ≠ ' ') : trimBlanks cs = cs := by
  unfold trimBlanks
  have hdrop : cs.reverse.dropWhile (· = ' ') = cs.reverse := by
    cases hr : cs.reverse with
    | nil => rfl
    | cons c ds =>
      have hlast : cs.getLast? = some c := by rw [← List.head?_reverse, hr]; rfl
      rw [List.dropWhile_cons, if_neg (by simpa using h c hlast)]
  rw [hdrop, List.reverse_reverse]

theorem length_trimBlanks (cs : List Char) : (trimBlanks cs).length ≤ cs.length := by
  unfold trimBlanks
  have hlen : cs.length = cs.reverse.length := List.length_reverse.symm
  rw [List.length_reverse, hlen]
  exact (List.dropWhile_sublist _).length_le

/-- The characters that start no plain scalar are no dash of a sequence and no blank. -/
theorem startsPlain_cons {c : Char} {cs : List Char} (h : startsPlain (c :: cs) = true) :
    c ≠ ' ' ∧ c ≠ '#' ∧ c ≠ '\t' ∧ ¬(c = '-' ∧ ends cs = true) := by
  unfold startsPlain at h
  refine ⟨?_, ?_, ?_, ?_⟩
  · rintro rfl; simp at h
  · rintro rfl
    have hmem : '#' ∈ indicators := by decide
    simp [hmem] at h
  · rintro rfl; simp at h
  · rintro ⟨rfl, hends⟩; simp [hends] at h

theorem value_plain {cs : List Char} (h : IsPlain cs) (col : Nat) : value col cs = .ok [(col, .scalar cs)] := by
  cases cs with
  | nil => cases h.starts
  | cons c cs =>
    obtain ⟨hblank, hcomment, htab, -⟩ := startsPlain_cons h.starts
    rw [value, if_neg hblank, if_neg hcomment, if_neg htab, if_pos h.starts, h.scan]
    dsimp only
    rw [h.trimmed]

theorem tokens_plain {cs : List Char} (h : IsPlain cs) (col : Nat) : tokens col cs = .ok [(col, .scalar cs)] := by
  cases cs with
  | nil => cases h.starts
  | cons c cs =>
    obtain ⟨hblank, hcomment, htab, hdash⟩ := startsPlain_cons h.starts
    rw [tokens, if_neg hblank, if_neg hcomment, if_neg htab, if_neg hdash, if_pos h.starts, h.scan]
    dsimp only
    rw [h.trimmed]

/-- A word, as the keys of a mapping are. -/
def IsWord (w : List Char) : Prop := w ≠ [] ∧ w.length ≤ 1024 ∧ ∀ c ∈ w, c.isAlpha = true ∨ c = '_'

instance (w : List Char) : Decidable (IsWord w) := inferInstanceAs (Decidable (_ ∧ _ ∧ _))

theorem wordChar {c : Char} (h : c.isAlpha = true ∨ c = '_') : c ∉ '\t' :: ' ' :: indicators := by
  intro hmem
  have hnone : ∀ x ∈ '\t' :: ' ' :: indicators, x.isAlpha = false ∧ x ≠ '_' := by decide
  rcases h with h | h
  · rw [(hnone c hmem).1] at h; cases h
  · exact (hnone c hmem).2 h

/-- A word and a colon are a key; the rest of the line is its value. -/
theorem tokens_key {w : List Char} (hw : IsWord w) {rest : List Char} (hrest : ends rest = true) (col : Nat) :
    tokens col (w ++ ':' :: rest) = (do return (col, .key w) :: (← value (col + w.length + 1) rest)) := by
  obtain ⟨hne, hlen, hchars⟩ := hw
  have hkey : scanPlain (':' :: rest) = ([], ':' :: rest) := by rw [scanPlain, if_pos (.inr (.inl ⟨rfl, hrest⟩))]
  have hscan : scanPlain (w ++ ':' :: rest) = (w, ':' :: rest) := by
    rw [scanPlain_run (fun c hc => ?_), hkey, List.append_nil]
    have hmem := wordChar (hchars c hc)
    simp only [List.mem_cons, not_or] at hmem
    refine ⟨hmem.1, ?_, hmem.2.1⟩
    rintro rfl; exact hmem.2.2 (by decide)
  have htrim : trimBlanks w = w := trimBlanks_of_last fun c hc => by
    rintro rfl
    exact wordChar (hchars _ (List.mem_of_getLast? hc)) (by decide)
  obtain ⟨c, cs, rfl⟩ := List.exists_cons_of_ne_nil hne
  have hc := wordChar (hchars c (List.mem_cons_self ..))
  have hstart : ∀ ds, startsPlain (c :: ds) = true := by
    intro ds
    simp only [List.mem_cons, not_or] at hc
    have hno : ∀ x ∈ indicators, c ≠ x := fun x hx h => hc.2.2 (h ▸ hx)
    rw [startsPlain, if_neg]
    · simp [hc.1, hc.2.1, hc.2.2]
    · rintro (h | h | h)
      · exact hno '-' (by decide) h
      · exact hno '?' (by decide) h
      · exact hno ':' (by decide) h
  rw [List.cons_append] at hscan ⊢
  obtain ⟨hblank, hcomment, htab, hdash⟩ := startsPlain_cons (hstart (cs ++ ':' :: rest))
  rw [tokens, if_neg hblank, if_neg hcomment, if_neg htab, if_neg hdash, if_pos (hstart _), hscan]
  show (if 1024 < (c :: cs).length then .error .refused
    else do return (col, .key (trimBlanks (c :: cs))) :: (← value (col + (c :: cs).length + 1) rest) :
      Except Stop (List Placed)) = _
  rw [if_neg (by omega), htrim]

/-! ## Columns -/

theorem singleton_cols {col : Nat} {t : Tok} : ∀ x ∈ [(col, t)], col ≤ x.1 :=
  List.forall_mem_singleton.2 (Nat.le_refl col)

theorem value_cols : ∀ {cs : List Char} {col : Nat} {toks : List Placed}, value col cs = .ok toks →
    ∀ t ∈ toks, col ≤ t.1
  | [], _, _, h => by cases h; exact List.forall_mem_nil _
  | c :: cs, col, toks, h => by
    unfold value at h
    split at h
    · intro t ht
      have hcol := value_cols h t ht
      omega
    · split at h
      · cases h; exact List.forall_mem_nil _
      · split at h
        · cases h
        · split at h
          · split at h
            · cases h; exact singleton_cols
            · cases h; exact singleton_cols
            · cases h
          · cases h

/-- A sequence of two results returns when both do. -/
theorem bind_ok_iff {α β : Type} {x : Except Stop α} {f : α → Except Stop β} {b : β} :
    (x >>= f) = .ok b ↔ ∃ a, x = .ok a ∧ f a = .ok b := by
  cases x with
  | ok a =>
    constructor
    · intro h; exact ⟨a, rfl, h⟩
    · rintro ⟨_, ⟨⟩, h⟩; exact h
  | error e =>
    constructor
    · intro h; cases h
    · rintro ⟨_, ⟨⟩, -⟩

/-- The tokens of a line from a column on are at this column or further right. -/
theorem tokens_cols : ∀ {cs : List Char} {col : Nat} {toks : List Placed}, tokens col cs = .ok toks →
    ∀ t ∈ toks, col ≤ t.1
  | [], _, _, h => by cases h; exact List.forall_mem_nil _
  | c :: cs, col, toks, h => by
    unfold tokens at h
    split at h
    · intro t ht
      have hcol := tokens_cols h t ht
      omega
    · split at h
      · cases h; exact List.forall_mem_nil _
      · split at h
        · cases h
        · split at h
          · obtain ⟨rest, hrest, h⟩ := bind_ok_iff.1 h
            cases h
            intro t ht
            rcases List.mem_cons.1 ht with rfl | ht
            · exact Nat.le_refl _
            · have hcol := tokens_cols hrest t ht
              omega
          · split at h
            · split at h
              · cases h; exact singleton_cols
              · cases h; exact singleton_cols
              · split at h
                · cases h
                · obtain ⟨rest, hrest, h⟩ := bind_ok_iff.1 h
                  cases h
                  intro t ht
                  rcases List.mem_cons.1 ht with rfl | ht
                  · exact Nat.le_refl _
                  · have hcol := value_cols hrest t ht
                    omega
              · cases h
            · cases h

/-- A line that is one scalar is longer than the scalar, or is the scalar and plain. -/
theorem tokens_scalar : ∀ {cs : List Char} {col c : Nat} {s : List Char}, tokens col cs = .ok [(c, .scalar s)] →
    s.length < cs.length ∨ s = cs ∧ IsPlain cs
  | [], _, _, _, h => by cases h
  | x :: cs, col, c, s, h => by
    unfold tokens at h
    split at h
    · rcases tokens_scalar h with hlt | ⟨rfl, -⟩
      · left; rw [List.length_cons]; omega
      · left; exact Nat.lt_succ_self _
    · split at h
      · cases h
      · split at h
        · cases h
        · split at h
          · obtain ⟨rest, -, h⟩ := bind_ok_iff.1 h
            cases h
          · split at h
            · rename_i hstart
              have happend := scanPlain_append (x :: cs)
              split at h
              · rename_i raw hscan
                cases h
                rw [hscan, List.append_nil] at happend
                subst happend
                rcases Nat.lt_or_ge (trimBlanks (x :: cs)).length (x :: cs).length with hlt | hge
                · exact .inl hlt
                · have htrim : trimBlanks (x :: cs) = x :: cs := by
                    have hprefix : trimBlanks (x :: cs) <+: x :: cs := by
                      unfold trimBlanks
                      rw [← List.reverse_suffix, List.reverse_reverse]
                      exact List.dropWhile_suffix _
                    exact hprefix.eq_of_length (Nat.le_antisymm (length_trimBlanks _) hge)
                  exact .inr ⟨htrim, hstart, hscan, htrim⟩
              · rename_i raw rest hscan
                cases h
                left
                have hlen := length_trimBlanks raw
                rw [hscan] at happend
                rw [← happend, List.length_append, List.length_cons]
                dsimp only at hlen ⊢
                omega
              · split at h
                · cases h
                · obtain ⟨rest, -, h⟩ := bind_ok_iff.1 h
                  cases h
              · cases h
            · cases h

/-! ## Nesting -/

/-- A token at a column takes what is further right after it. -/
theorem groups_cons {col : Nat} (t : Tok) {rest : List Placed} {gs : List (Tok × List Placed)}
    (hrest : groups col rest = some ([], gs)) {kids : List Placed} (hkids : ∀ k ∈ kids, col < k.1) :
    groups col ((col, t) :: (kids ++ rest)) = some ([], (t, kids) :: gs) := by
  have hunder : groups col (kids ++ rest) = some (kids, gs) := by
    induction kids with
    | nil => exact hrest
    | cons k kids ih =>
      obtain ⟨hk, hkids⟩ := List.forall_mem_cons.1 hkids
      rw [List.cons_append, groups, ih hkids]
      dsimp only [bind, Option.bind]
      rw [if_neg (by omega), if_pos hk]
  rw [groups, hunder]
  dsimp only [bind, Option.bind]
  rw [if_pos rfl]

/-- Groups one after another. -/
theorem groups_flatMap {β : Type} {col : Nat} (head : β → Tok) (kids : β → List Placed) : ∀ {xs : List β},
    (∀ x ∈ xs, ∀ k ∈ kids x, col < k.1) →
    groups col (xs.flatMap fun x => (col, head x) :: kids x) = some ([], xs.map fun x => (head x, kids x))
  | [], _ => rfl
  | x :: xs, h => by
    obtain ⟨hx, hxs⟩ := List.forall_mem_cons.1 h
    rw [List.flatMap_cons, List.cons_append]
    exact groups_cons _ (groups_flatMap head kids hxs) hx

/-- What is under the tokens of a column is less than all tokens. -/
theorem length_groups {col : Nat} : ∀ {toks under : List Placed} {gs : List (Tok × List Placed)},
    groups col toks = some (under, gs) → under.length ≤ toks.length ∧ ∀ g ∈ gs, g.2.length < toks.length
  | [], _, _, h => by cases h; exact ⟨Nat.le_refl _, List.forall_mem_nil _⟩
  | (c, t) :: rest, under, gs, h => by
    rw [groups] at h
    obtain ⟨⟨under', gs'⟩, hrest, h⟩ := Option.bind_eq_some_iff.1 h
    obtain ⟨hunder, hgs⟩ := length_groups hrest
    dsimp only at h
    rw [List.length_cons]
    split at h
    · cases h
      refine ⟨Nat.zero_le _, fun g hg => ?_⟩
      rcases List.mem_cons.1 hg with rfl | hg
      · exact Nat.lt_succ_of_le hunder
      · have hlt := hgs g hg
        omega
    · split at h
      · cases h
        refine ⟨Nat.succ_le_succ hunder, fun g hg => ?_⟩
        have hlt := hgs g hg
        omega
      · cases h

section Traverse

variable {α β : Type} {f : α → Except Stop β}

theorem readEach_ok {g : α → β} : ∀ {xs : List α}, (∀ x ∈ xs, f x = .ok (g x)) → readEach f xs = .ok (xs.map g)
  | [], _ => rfl
  | x :: xs, h => by
    obtain ⟨hx, hxs⟩ := List.forall_mem_cons.1 h
    rw [readEach, hx, readEach_ok hxs]
    rfl

theorem readEach_cons {x : α} {y : β} (h : f x = .ok y) (xs : List α) :
    readEach f (x :: xs) = (do return y :: (← readEach f xs)) := by
  rw [readEach, h]
  rfl

theorem readEach_mem : ∀ {xs : List α} {ys : List β}, readEach f xs = .ok ys → ∀ x ∈ xs, ∃ y, f x = .ok y
  | [], _, _ => List.forall_mem_nil _
  | x :: xs, ys, h => by
    obtain ⟨y, hy, h⟩ := bind_ok_iff.1 h
    obtain ⟨ys', hys, -⟩ := bind_ok_iff.1 h
    exact List.forall_mem_cons.2 ⟨⟨y, hy⟩, readEach_mem hys⟩

theorem readEach_congr {f' : α → Except Stop β} : ∀ {xs : List α}, (∀ x ∈ xs, f x = f' x) →
    readEach f xs = readEach f' xs
  | [], _ => rfl
  | x :: xs, h => by
    obtain ⟨hx, hxs⟩ := List.forall_mem_cons.1 h
    rw [readEach, readEach, hx, readEach_congr hxs]

theorem readEach_map {γ : Type} (h : γ → α) : ∀ xs : List γ, readEach f (xs.map h) = readEach (fun x => f (h x)) xs
  | [] => rfl
  | x :: xs => by rw [List.map_cons, readEach, readEach_map h xs, readEach]

end Traverse

section Fuel

variable {α : Type} {leaf : List Char → Except Stop α} {seq : List α → α} {map : List (List Char × α) → Except Stop α}

/-- The number of tokens is fuel enough. -/
theorem parse_fuel : ∀ {n m : Nat} {toks : List Placed}, toks.length ≤ n → toks.length ≤ m →
    parse leaf seq map n toks = parse leaf seq map m toks
  | n, m, [], _, _ => by rw [parse.eq_def, parse.eq_def]
  | 0, _, _ :: _, h, _ => absurd h (Nat.not_succ_le_zero _)
  | _ + 1, 0, _ :: _, _, h => absurd h (Nat.not_succ_le_zero _)
  | n + 1, m + 1, (c, t) :: rest, hn, hm => by
    have hkids : ∀ {gs : List (Tok × List Placed)}, groups c ((c, t) :: rest) = some ([], gs) → ∀ g ∈ gs,
        parse leaf seq map n g.2 = parse leaf seq map m g.2 := by
      intro gs h g hg
      have hlt := (length_groups h).2 g hg
      exact parse_fuel (by omega) (by omega)
    unfold parse
    cases hgs : groups c ((c, t) :: rest) with
    | none => cases t <;> rfl
    | some p =>
      obtain ⟨under, gs⟩ := p
      cases under with
      | cons k ks => cases t <;> rfl
      | nil =>
        cases t with
        | scalar s => rfl
        | dash =>
          have hsame : readEach (dashed (parse leaf seq map n)) gs = readEach (dashed (parse leaf seq map m)) gs :=
            readEach_congr fun g hg => by
              obtain ⟨t, kids⟩ := g
              cases t with
              | dash => exact hkids hgs _ hg
              | key _ | scalar _ => rfl
          show (readEach (dashed (parse leaf seq map n)) gs >>= fun xs => pure (seq xs)) = _
          rw [hsame]
        | key k =>
          have hsame : readEach (keyed (parse leaf seq map n)) gs = readEach (keyed (parse leaf seq map m)) gs :=
            readEach_congr fun g hg => by
              obtain ⟨t, kids⟩ := g
              cases t with
              | key k => rw [keyed, keyed, hkids hgs _ hg]
              | dash | scalar _ => rfl
          show (readEach (keyed (parse leaf seq map n)) gs >>= fun kvs => map kvs) = _
          rw [hsame]

theorem parse_scalar (n c : Nat) (s : List Char) (rest : List Placed) :
    parse leaf seq map (n + 1) ((c, .scalar s) :: rest) = if rest = [] then leaf s else .error .beyond := by
  unfold parse
  cases groups c ((c, .scalar s) :: rest) with
  | none => rfl
  | some p => rfl

/-- What is parsed is a scalar, a sequence or a mapping. -/
theorem parse_cases : ∀ {n : Nat} {toks : List Placed} {a : α}, parse leaf seq map n toks = .ok a →
    toks = [] ∧ leaf [] = .ok a ∨ (∃ c s, toks = [(c, .scalar s)] ∧ leaf s = .ok a) ∨ (∃ xs, a = seq xs) ∨
      ∃ kvs, map kvs = .ok a
  | n, [], _, h => by
    rw [parse.eq_def] at h
    exact .inl ⟨rfl, h⟩
  | 0, _ :: _, _, h => by cases h
  | n + 1, (c, .scalar s) :: rest, _, h => by
    rw [parse_scalar] at h
    split at h
    · rename_i hrest; subst hrest; exact .inr (.inl ⟨c, s, rfl, h⟩)
    · cases h
  | n + 1, (c, .dash) :: rest, _, h => by
    unfold parse at h
    cases hgs : groups c ((c, .dash) :: rest) with
    | none => rw [hgs] at h; cases h
    | some p =>
      obtain ⟨under, gs⟩ := p
      rw [hgs] at h
      cases under with
      | cons k ks => cases h
      | nil =>
        obtain ⟨xs, -, h⟩ := bind_ok_iff.1 h
        cases h
        exact .inr (.inr (.inl ⟨xs, rfl⟩))
  | n + 1, (c, .key k) :: rest, _, h => by
    unfold parse at h
    cases hgs : groups c ((c, .key k) :: rest) with
    | none => rw [hgs] at h; cases h
    | some p =>
      obtain ⟨under, gs⟩ := p
      rw [hgs] at h
      cases under with
      | cons k ks => cases h
      | nil =>
        obtain ⟨kvs, -, h⟩ := bind_ok_iff.1 h
        exact .inr (.inr (.inr ⟨kvs, h⟩))

/-- The tokens of a sequence, nested under their dashes. -/
theorem parse_dashes {n c : Nat} {rest : List Placed} {gs : List (Tok × List Placed)}
    (h : groups c ((c, .dash) :: rest) = some ([], gs)) :
    parse leaf seq map (n + 1) ((c, .dash) :: rest) =
      (do return seq (← readEach (dashed (parse leaf seq map n)) gs)) := by
  unfold parse
  rw [h]

/-- The tokens of a mapping, nested under their keys. -/
theorem parse_keys {n c : Nat} {k : List Char} {rest : List Placed} {gs : List (Tok × List Placed)}
    (h : groups c ((c, .key k) :: rest) = some ([], gs)) :
    parse leaf seq map (n + 1) ((c, .key k) :: rest) = (do map (← readEach (keyed (parse leaf seq map n)) gs)) := by
  unfold parse
  rw [h]

end Fuel

end Text.BlockYaml
