import DevHarness.Text.JsString

/-!
# Base64url

`btoa` and `atob`, and the unpadded alphabet for URLs made from them.  Six bits of the
text stand for six bits of the bytes, so what is encoded decodes to itself.
-/

namespace JsText

/-- The unit that stands for six bits. -/
def base64Unit (n : Fin 64) : UInt16 :=
  if n < 26 then (65 + n.val).toUInt16
  else if n < 52 then (71 + n.val).toUInt16
  else if n < 62 then (n.val - 4).toUInt16
  else if n = 62 then 0x2B
  else 0x2F

def base64Value (u : UInt16) : Option (Fin 64) :=
  (List.finRange 64).find? fun n => base64Unit n = u

/-- The bits of the bytes, six at a time; the last six are filled up with zeros. -/
def sextets : List UInt8 → List (Fin 64)
  | [] => []
  | [a] => [.ofNat 64 (a.toNat / 4), .ofNat 64 (a.toNat % 4 * 16)]
  | [a, b] =>
    [.ofNat 64 (a.toNat / 4), .ofNat 64 (a.toNat % 4 * 16 + b.toNat / 16),
      .ofNat 64 (b.toNat % 16 * 4)]
  | a :: b :: c :: rest =>
    .ofNat 64 (a.toNat / 4) :: .ofNat 64 (a.toNat % 4 * 16 + b.toNat / 16) ::
      .ofNat 64 (b.toNat % 16 * 4 + c.toNat / 64) :: .ofNat 64 (c.toNat % 64) :: sextets rest

/-- The bytes that fill up; what is left of the last six bits is dropped. -/
def octets : List (Fin 64) → List UInt8
  | a :: b :: c :: d :: rest =>
    .ofNat (a.val * 4 + b.val / 16) :: .ofNat (b.val % 16 * 16 + c.val / 4) ::
      .ofNat (c.val % 4 * 64 + d.val) :: octets rest
  | [a, b, c] => [.ofNat (a.val * 4 + b.val / 16), .ofNat (b.val % 16 * 16 + c.val / 4)]
  | [a, b] => [.ofNat (a.val * 4 + b.val / 16)]
  | _ => []

def btoa (bytes : List UInt8) : JsString :=
  (sextets bytes).map base64Unit ++ List.replicate ((3 - bytes.length % 3) % 3) 0x3D

/-- One or two `=` at the end of a text of whole groups do not count. -/
def dropPadding (data : JsString) : JsString :=
  let unpadded := data.rdropWhile (· = 0x3D)
  if data.length % 4 = 0 ∧ data.length ≤ unpadded.length + 2 then unpadded else data

/-- `none` is the `InvalidCharacterError`. -/
def atob (text : JsString) : Option (List UInt8) :=
  let data := dropPadding (text.filter fun u => u ∉ [0x9, 0xA, 0xC, 0xD, 0x20])
  if data.length % 4 = 1 then none else (data.mapM base64Value).map octets

def encodeBase64Url (bytes : List UInt8) : JsString :=
  ((btoa bytes).map fun u => if u = 0x2B then 0x2D else if u = 0x2F then 0x5F else u).filter
    (· ≠ 0x3D)

def decodeBase64Url (value : JsString) : Option (List UInt8) :=
  let normalized := value.map fun u => if u = 0x2D then 0x2B else if u = 0x5F then 0x2F else u
  atob (normalized ++ List.replicate ((4 - normalized.length % 4) % 4) 0x3D)

/-- The unit for URLs. -/
def base64UrlUnit (n : Fin 64) : UInt16 :=
  if base64Unit n = 0x2B then 0x2D else if base64Unit n = 0x2F then 0x5F else base64Unit n

theorem base64Value_base64Unit : ∀ n, base64Value (base64Unit n) = some n := by decide

theorem base64Unit_plain : ∀ n, base64Unit n ∉ [0x9, 0xA, 0xC, 0xD, 0x20, 0x3D] := by decide

theorem base64UrlUnit_plain : ∀ n, base64UrlUnit n ∉ [0x2E, 0x3D] := by decide

theorem base64Unit_of_url : ∀ n, (if base64UrlUnit n = 0x2D then 0x2B
    else if base64UrlUnit n = 0x5F then 0x2F else base64UrlUnit n) = base64Unit n := by decide

theorem octets_sextets (bytes : List UInt8) : octets (sextets bytes) = bytes := by
  have hbyte : ∀ (a : UInt8) (n : ℕ), n % 256 = a.toNat → UInt8.ofNat n = a := by
    intro a n h
    apply UInt8.toNat_inj.mp
    simpa using h
  fun_induction sextets bytes with
  | case1 => rfl
  | case2 a =>
      have ha := a.toNat_lt
      simp only [octets, Fin.val_ofNat, List.cons.injEq, and_true]
      exact hbyte a _ (by omega)
  | case3 a b =>
      have ha := a.toNat_lt
      have hb := b.toNat_lt
      simp only [octets, Fin.val_ofNat, List.cons.injEq, and_true]
      exact ⟨hbyte a _ (by omega), hbyte b _ (by omega)⟩
  | case4 a b c rest ih =>
      have ha := a.toNat_lt
      have hb := b.toNat_lt
      have hc := c.toNat_lt
      simp only [octets, Fin.val_ofNat, List.cons.injEq]
      exact ⟨hbyte a _ (by omega), hbyte b _ (by omega), hbyte c _ (by omega), ih⟩

/-- A last group of one sextet alone does not occur. -/
theorem length_sextets_mod (bytes : List UInt8) : (sextets bytes).length % 4 ≠ 1 := by
  fun_induction sextets bytes with
  | case1 => simp
  | case2 => simp
  | case3 => simp
  | case4 a b c rest ih =>
      simp only [List.length_cons]
      omega

theorem encodeBase64Url_eq (bytes : List UInt8) :
    encodeBase64Url bytes = (sextets bytes).map base64UrlUnit := by
  rw [encodeBase64Url, btoa, List.map_append, List.filter_append, List.map_map]
  have hunits : ∀ u ∈ (sextets bytes).map base64UrlUnit, decide (u ≠ 0x3D) = true := by
    intro u hu
    obtain ⟨n, -, rfl⟩ := List.mem_map.mp hu
    have hplain := base64UrlUnit_plain n
    simp only [List.mem_cons, not_or] at hplain
    exact decide_eq_true hplain.2.1
  have hpadding : ((List.replicate ((3 - bytes.length % 3) % 3) 0x3D).map fun u : UInt16 =>
      if u = 0x2B then 0x2D else if u = 0x2F then 0x5F else u).filter (· ≠ 0x3D) = [] := by
    simp
  rw [hpadding, List.append_nil]
  exact List.filter_eq_self.mpr hunits

variable {data : JsString}

theorem rdropWhile_append_replicate (hdata : 0x3D ∉ data) (n : ℕ) :
    (data ++ List.replicate n 0x3D).rdropWhile (· = 0x3D) = data := by
  induction n with
  | zero =>
      rw [List.replicate_zero, List.append_nil, List.rdropWhile_eq_self_iff]
      intro hne hlast
      exact hdata (of_decide_eq_true hlast ▸ List.getLast_mem hne)
  | succ n ih =>
      rw [List.replicate_succ', ← List.append_assoc, List.rdropWhile_concat_pos _ _ _ (by rfl), ih]

theorem dropPadding_append {n : ℕ} (hdata : 0x3D ∉ data) (hn : n = (4 - data.length % 4) % 4)
    (hmod : data.length % 4 ≠ 1) : dropPadding (data ++ List.replicate n 0x3D) = data := by
  rw [dropPadding, rdropWhile_append_replicate hdata, if_pos]
  simp only [List.length_append, List.length_replicate]
  omega

/-- What is encoded decodes to itself. -/
theorem decodeBase64Url_encodeBase64Url (bytes : List UInt8) :
    decodeBase64Url (encodeBase64Url bytes) = some bytes := by
  have hnormalized : (encodeBase64Url bytes).map (fun u : UInt16 =>
      if u = 0x2D then 0x2B else if u = 0x5F then 0x2F else u) =
        (sextets bytes).map base64Unit := by
    rw [encodeBase64Url_eq, List.map_map]
    exact List.map_congr_left fun n _ => base64Unit_of_url n
  have hplain : ∀ u ∈ (sextets bytes).map base64Unit,
      u ∉ ([0x9, 0xA, 0xC, 0xD, 0x20, 0x3D] : JsString) := by
    intro u hu
    obtain ⟨n, -, rfl⟩ := List.mem_map.mp hu
    exact base64Unit_plain n
  have hspaces : ∀ n, (((sextets bytes).map base64Unit) ++ List.replicate n 0x3D).filter
      (fun u => u ∉ ([0x9, 0xA, 0xC, 0xD, 0x20] : JsString)) =
        (sextets bytes).map base64Unit ++ List.replicate n 0x3D := by
    intro n
    refine List.filter_eq_self.mpr fun u hu => decide_eq_true ?_
    rcases List.mem_append.mp hu with hunit | hpad
    · intro hmem
      exact hplain u hunit (List.mem_append_left [0x3D] hmem)
    · rw [(List.mem_replicate.mp hpad).2]
      decide
  have hvalues : ∀ ns : List (Fin 64), (ns.map base64Unit).mapM base64Value = some ns := by
    intro ns
    induction ns with
    | nil => rfl
    | cons n ns ih => simp [List.mapM_cons, base64Value_base64Unit, ih]
  have hmod := length_sextets_mod bytes
  rw [decodeBase64Url, hnormalized, atob, hspaces, dropPadding_append
    (fun h => hplain _ h (by decide)) rfl (by rwa [List.length_map]), if_neg (by
      rwa [List.length_map]), hvalues, Option.map_some, octets_sextets]

theorem dot_not_mem_encodeBase64Url (bytes : List UInt8) : 0x2E ∉ encodeBase64Url bytes := by
  rw [encodeBase64Url_eq]
  intro h
  obtain ⟨n, -, hn⟩ := List.mem_map.mp h
  exact base64UrlUnit_plain n (hn ▸ List.mem_cons_self)

theorem encodeBase64Url_ne_nil {bytes : List UInt8} (h : bytes ≠ []) :
    encodeBase64Url bytes ≠ [] := by
  intro hnil
  have hround := decodeBase64Url_encodeBase64Url bytes
  rw [hnil] at hround
  exact h (Option.some.inj hround).symm

end JsText
