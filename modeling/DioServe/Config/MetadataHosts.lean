/-
Which spellings of a metadata host a vetted backend URL can still have. `validate_backend_url` compares
the host's text, so it misses a trailing dot, the other texts of the IPv6 address, and the texts of the
IPv6 address that the IPv4 one is mapped to.
-/
import DioServe.Config.File
import DioServe.Text.IpAddress

namespace Dio.Config

open Py Text.Ip

/-! ## Hosts -/

/-- The text between the scheme and the path of a URL (`netloc`). -/
def netloc (url : String) : List Char :=
  match url.toList.dropWhile (· ≠ ':') with
  | ':' :: '/' :: '/' :: cs => cs.takeWhile fun c => c ≠ '/' ∧ c ≠ '?' ∧ c ≠ '#'
  | _ => []

/-- The host text between the authority delimiters: after the credentials, before the port, without
the brackets of an IP literal. -/
def authorityHost (url : String) : String :=
  let hostinfo := ((netloc url).splitOn '@').getLast?.getD []
  match hostinfo.dropWhile (· ≠ '[') with
  | '[' :: bracketed => String.ofList (bracketed.takeWhile (· ≠ ']'))
  | _ => String.ofList (hostinfo.takeWhile (· ≠ ':'))

/-- `urlsplit` returns the lower-cased host text, or nothing where it is empty. -/
def SplitsHosts (L : Loader) : Prop :=
  ∀ url parts, L.urlsplit url = .ok parts → parts.hostname.getD "" = lower L.U (authorityHost url)

/-- A host without one trailing dot. -/
def withoutDot (cs : List Char) : List Char := if cs.getLast? = some '.' then cs.dropLast else cs

/-- A lower-cased host names a metadata host: as a text, or as an IP literal of its address. -/
def MetadataHost (host : String) : Prop :=
  ∃ name ∈ blockedBackendHosts, withoutDot host.toList = name.toList ∨
    ∃ gs, Literal (withoutDot host.toList) gs ∧ Literal name.toList gs

/-- The groups of `fd00:ec2::254`. -/
def ec2Address : List Nat := [0xfd00, 0xec2, 0, 0, 0, 0, 0, 0x254]

/-- The groups that `169.254.169.254` is mapped to. -/
def mappedAddress : List Nat := [0, 0, 0, 0, 0, 0xffff, 0xa9fe, 0xa9fe]

/-- A lower-cased host is one of the spellings the check misses. -/
def Missed (host : String) : Prop :=
  host = "169.254.169.254." ∨ host = "metadata.google.internal." ∨
    readAddress (withoutDot host.toList) = some ec2Address ∨ readAddress (withoutDot host.toList) = some mappedAddress

instance (host : String) : Decidable (Missed host) := inferInstanceAs (Decidable (_ ∨ _ ∨ _ ∨ _))

/-! ## The literals of the three names -/

theorem literal_iff {cs : List Char} {gs : List Nat} : Literal cs gs ↔
    (∃ ds, readDotted cs = some ds ∧ gs = [0, 0, 0, 0, 0, 0xffff] ++ ds) ∨ readAddress cs = some gs := by
  constructor
  · rintro (h | h)
    · exact .inl ⟨_, readDotted_eq_some.2 h, rfl⟩
    · exact .inr (readAddress_eq_some.2 h)
  · rintro (⟨ds, h, rfl⟩ | h)
    · exact .v4 (readDotted_eq_some.1 h)
    · exact .v6 (readAddress_eq_some.1 h)

theorem literal_imds (gs : List Nat) : Literal "169.254.169.254".toList gs ↔ gs = mappedAddress := by
  have hdotted : readDotted "169.254.169.254".toList = some [0xa9fe, 0xa9fe] := by decide
  have haddress : readAddress "169.254.169.254".toList = none := by decide
  rw [literal_iff, hdotted, haddress]
  constructor
  · rintro (⟨ds, h, rfl⟩ | h)
    · cases h; rfl
    · cases h
  · intro h; exact .inl ⟨_, rfl, h⟩

theorem literal_ec2 (gs : List Nat) : Literal "fd00:ec2::254".toList gs ↔ gs = ec2Address := by
  have hdotted : readDotted "fd00:ec2::254".toList = none := by decide
  have haddress : readAddress "fd00:ec2::254".toList = some ec2Address := by decide
  rw [literal_iff, hdotted, haddress]
  constructor
  · rintro (⟨ds, h, -⟩ | h)
    · cases h
    · cases h; rfl
  · rintro rfl; exact .inr rfl

theorem not_literal_google (gs : List Nat) : ¬ Literal "metadata.google.internal".toList gs := by
  have hdotted : readDotted "metadata.google.internal".toList = none := by decide
  have haddress : readAddress "metadata.google.internal".toList = none := by decide
  rw [literal_iff, hdotted, haddress]
  rintro (⟨ds, h, -⟩ | h)
  · cases h
  · cases h

/-- The one dotted decimal of the metadata address. -/
theorem literal_mappedAddress {cs : List Char} :
    Literal cs mappedAddress ↔ cs = "169.254.169.254".toList ∨ readAddress cs = some mappedAddress := by
  rw [literal_iff]
  refine or_congr ?_ Iff.rfl
  constructor
  · rintro ⟨ds, h, he⟩
    have hmapped : [0, 0, 0, 0, 0, 0xffff] ++ [0xa9fe, 0xa9fe] = [0, 0, 0, 0, 0, 0xffff] ++ ds := he
    obtain rfl : [0xa9fe, 0xa9fe] = ds := List.append_cancel_left hmapped
    obtain ⟨a, b, c, d, hle, rfl, hgs⟩ := readDotted_eq_some.1 h
    simp only [List.cons.injEq, and_true] at hgs
    obtain ⟨rfl, rfl, rfl, rfl⟩ : a = 169 ∧ b = 254 ∧ c = 169 ∧ d = 254 := by omega
    decide
  · rintro rfl
    exact ⟨[0xa9fe, 0xa9fe], by decide, rfl⟩

theorem literal_ec2Address {cs : List Char} : Literal cs ec2Address ↔ readAddress cs = some ec2Address := by
  rw [literal_iff]
  constructor
  · rintro (⟨ds, -, he⟩ | h)
    · cases he
    · exact h
  · exact .inr

/-! ## The check -/

/-- A text before its trailing dot, if it has one. -/
theorem withoutDot_eq {cs name : List Char} (hname : name.getLast? ≠ some '.') :
    withoutDot cs = name ↔ cs = name ∨ cs = name ++ ['.'] := by
  unfold withoutDot
  split
  · rename_i hdot
    obtain ⟨cs', rfl⟩ : ∃ cs', cs = cs' ++ ['.'] := by
      obtain ⟨ys, hys⟩ := List.getLast?_eq_some_iff.1 hdot
      exact ⟨ys, hys⟩
    rw [List.dropLast_concat]
    constructor
    · rintro rfl; exact .inr rfl
    · rintro (rfl | h)
      · exact absurd (List.getLast?_concat ..) hname
      · exact List.append_cancel_right h
  · rename_i hdot
    constructor
    · exact .inl
    · rintro (rfl | rfl)
      · rfl
      · exact absurd (List.getLast?_concat ..) hdot

/-- A host whose text without its dot is a name. -/
theorem withoutDot_toList (host name : String) (hname : name.toList.getLast? ≠ some '.') :
    withoutDot host.toList = name.toList ↔ host = name ∨ host = name ++ "." := by
  have hdotted : host.toList = name.toList ++ ['.'] ↔ host = name ++ "." := by
    rw [← String.toList_inj, String.toList_append]; rfl
  rw [withoutDot_eq hname, hdotted, String.toList_inj]

/-- The spellings of the metadata hosts: the three texts, and those that the check misses. -/
theorem metadataHost_iff (host : String) : MetadataHost host ↔ host ∈ blockedBackendHosts ∨ Missed host := by
  have himds := withoutDot_toList host "169.254.169.254" (by decide)
  have hec2 := withoutDot_toList host "fd00:ec2::254" (by decide)
  have hgoogle := withoutDot_toList host "metadata.google.internal" (by decide)
  have hread : readAddress "fd00:ec2::254".toList = some ec2Address := by decide
  unfold MetadataHost Missed
  simp only [blockedBackendHosts, List.mem_cons, List.not_mem_nil, or_false]
  constructor
  · rintro ⟨name, rfl | rfl | rfl, h | ⟨gs, h, hname⟩⟩
    · rcases himds.1 h with h | h
      · exact .inl (.inl h)
      · exact .inr (.inl h)
    · rw [literal_imds] at hname
      subst hname
      rcases literal_mappedAddress.1 h with h | h
      · rcases himds.1 h with h | h
        · exact .inl (.inl h)
        · exact .inr (.inl h)
      · exact .inr (.inr (.inr (.inr h)))
    · exact .inr (.inr (.inr (.inl (by rw [h, hread]))))
    · rw [literal_ec2] at hname
      subst hname
      exact .inr (.inr (.inr (.inl (literal_ec2Address.1 h))))
    · rcases hgoogle.1 h with h | h
      · exact .inl (.inr (.inr h))
      · exact .inr (.inr (.inl h))
    · exact absurd hname (not_literal_google gs)
  · rintro ((h | h | h) | h | h | h | h)
    · exact ⟨_, .inl rfl, .inl (himds.2 (.inl h))⟩
    · exact ⟨_, .inr (.inl rfl), .inl (hec2.2 (.inl h))⟩
    · exact ⟨_, .inr (.inr rfl), .inl (hgoogle.2 (.inl h))⟩
    · exact ⟨_, .inl rfl, .inl (himds.2 (.inr h))⟩
    · exact ⟨_, .inr (.inr rfl), .inl (hgoogle.2 (.inr h))⟩
    · exact ⟨_, .inr (.inl rfl), .inr ⟨_, literal_ec2Address.2 h, (literal_ec2 _).2 rfl⟩⟩
    · exact ⟨_, .inl rfl, .inr ⟨_, literal_mappedAddress.2 (.inr h), (literal_imds _).2 rfl⟩⟩

/-- What a vetted URL's host is not. -/
theorem validateBackendUrl_host {L : Loader} (hsplit : SplitsHosts L) {baseUrl url : String} {backendId : Json}
    (h : validateBackendUrl L baseUrl backendId = .ok url) : lower L.U (authorityHost url) ∉ blockedBackendHosts := by
  unfold validateBackendUrl at h
  dsimp only at h
  split at h
  · cases h
  · split at h
    · cases h
    · split at h
      · cases h
      · rename_i parts hparts
        split at h
        · cases h
        · split at h
          · cases h
          · rename_i host hhost
            split at h
            · cases h
            · rename_i hblocked
              cases h
              obtain ⟨hhost, -⟩ := Option.filter_eq_some_iff.1 hhost
              rw [← hsplit _ _ hparts, hhost]
              exact hblocked

/-- A loader that splits URLs at their delimiters. -/
def hostLoader : Loader where
  U := .ascii
  urlsplit url := .ok ⟨lower .ascii (String.ofList (url.toList.takeWhile (· ≠ ':'))),
    some (lower .ascii (authorityHost url))⟩
  path := "dio.yaml"
  textFor := repr .ascii

theorem splitsHosts_hostLoader : SplitsHosts hostLoader := by
  intro url parts h
  rw [← Except.ok.inj h]; rfl

/-- A URL of a metadata host is accepted. -/
def Passes (url : String) : Prop :=
  validateBackendUrl hostLoader url (.str "a") = .ok url ∧ MetadataHost (lower .ascii (authorityHost url))

end Dio.Config
