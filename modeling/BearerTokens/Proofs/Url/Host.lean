import BearerTokens.Proofs.Url.Ipv6
import BearerTokens.Proofs.Url.Name

/-!
# Hosts that read back

The reader leaves a host in one form: a name in ASCII that stands for itself and is no number, or an address that fits
its size. A host in that form is read from its text.
-/

set_option autoImplicit false

namespace BearerTokens

open BearerTokens.Text

namespace Host

theorem length_of_mapM {α β : Type} {f : α → Option β} {xs : List α} {ys : List β} (h : xs.mapM f = some ys) :
    ys.length = xs.length := by
  induction xs generalizing ys with
  | nil =>
    cases h
    rfl
  | cons x xs ih =>
    rw [List.mapM_cons] at h
    obtain ⟨y, -, h⟩ := Option.bind_eq_some_iff.1 h
    obtain ⟨zs, hTail, h⟩ := Option.bind_eq_some_iff.1 h
    cases h
    rw [List.length_cons, List.length_cons, ih hTail]

theorem foldl_bytes_lt {bytes : List Nat} (h : ∀ b ∈ bytes, b ≤ 255) :
    bytes.foldl (fun n b => n * 256 + b) 0 < 256 ^ bytes.length := by
  induction bytes using List.reverseRecOn with
  | nil => exact Nat.one_pos
  | append_singleton bytes b ih =>
    have hFront := ih fun c hc => h c (List.mem_append_left _ hc)
    have hLast := h b (List.mem_append_right _ (List.mem_singleton_self b))
    rw [List.foldl_append, List.foldl_cons, List.foldl_nil, List.length_append, List.length_singleton, Nat.pow_succ]
    omega

theorem ipv4?_lt {name : List Char} {address : Nat} (h : ipv4? name = some address) : address < 256 ^ 4 := by
  unfold ipv4? at h
  dsimp only at h
  split at h
  · cases h
  · rename_i hFew
    split at h
    · cases h
    · rename_i numbers hNumbers
      split at h
      · cases h
      · rename_i last _
        split at h
        · rename_i hFit
          cases h
          obtain ⟨hBytes, hLast⟩ := hFit
          have hFront := foldl_bytes_lt fun b hb => of_decide_eq_true (List.all_eq_true.1 hBytes b hb)
          have hCount : numbers.dropLast.length ≤ 3 := by
            rw [List.length_dropLast, length_of_mapM hNumbers]
            omega
          -- the last part has the places that the bytes before it leave, and no more
          generalize numbers.dropLast.foldl (fun n b => n * 256 + b) 0 = front at hFront ⊢
          generalize numbers.dropLast.length = k at hFront hLast hCount ⊢
          calc front * 256 ^ (4 - k) + last
            _ < front * 256 ^ (4 - k) + 256 ^ (4 - k) := Nat.add_lt_add_left hLast _
            _ = (front + 1) * 256 ^ (4 - k) := (Nat.succ_mul _ _).symm
            _ ≤ 256 ^ k * 256 ^ (4 - k) := Nat.mul_le_mul_right _ hFront
            _ = 256 ^ 4 := by rw [← Nat.pow_add, Nat.add_sub_cancel' (by omega)]
        · cases h

def bytes (address : Nat) : List Nat :=
  [16777216, 65536, 256, 1].map fun place => address / place % 256

theorem bytes_lt {address b : Nat} (h : b ∈ bytes address) : b < 256 := by
  obtain ⟨place, -, rfl⟩ := List.mem_map.1 h
  exact Nat.mod_lt _ (by decide)

theorem toList_toString (n : Nat) : (toString n).toList = Nat.toDigits 10 n := by
  rw [Nat.toString_eq_ofList_toDigits, String.toList_ofList]

theorem toList_dotted (address : Nat) :
    (dotted address).toList = ['.'].intercalate ((bytes address).map (Nat.toDigits 10)) := by
  rw [dotted, String.toList_intercalate, bytes, List.map_map, List.map_map]
  refine congrArg _ (List.map_congr_left fun place _ => ?_)
  exact toList_toString _

theorem digitChar_digit : ∀ d < 10, d.digitChar.isDigit = true := by
  decide

theorem isDigit_of_mem {n : Nat} {c : Char} (hc : c ∈ Nat.toDigits 10 n) : c.isDigit = true := by
  obtain ⟨d, hd, rfl⟩ := mem_toDigits (by decide) hc
  exact digitChar_digit d hd

theorem splitWhere_dotted (address : Nat) :
    splitWhere (· == '.') (dotted address).toList = (bytes address).map (Nat.toDigits 10) := by
  rw [toList_dotted]
  refine splitWhere_intercalate rfl (List.cons_ne_nil _ _) fun piece hPiece c hc => ?_
  obtain ⟨b, -, rfl⟩ := List.mem_map.1 hPiece
  refine beq_false_of_ne ?_
  rintro rfl
  cases isDigit_of_mem hc

theorem properLabels_dotted (address : Nat) :
    properLabels (dotted address).toList = (bytes address).map (Nat.toDigits 10) := by
  rw [properLabels, splitWhere_dotted, if_neg]
  intro hLast
  rw [List.getLast?_map] at hLast
  obtain ⟨b, -, hb⟩ := Option.map_eq_some_iff.1 hLast
  exact Nat.toDigits_ne_nil hb

theorem ipv4Part?_toDigits : ∀ n < 256, ipv4Part? (Nat.toDigits 10 n) = some n := by
  decide +kernel

theorem mapM_ipv4Part? {ns : List Nat} (h : ∀ n ∈ ns, n < 256) :
    (ns.map (Nat.toDigits 10)).mapM ipv4Part? = some ns := by
  induction ns with
  | nil => rfl
  | cons n ns ih =>
    obtain ⟨hn, hns⟩ := List.forall_mem_cons.1 h
    rw [List.map_cons, List.mapM_cons, ipv4Part?_toDigits n hn, ih hns]
    rfl

theorem endsInNumber_dotted (address : Nat) : endsInNumber (dotted address).toList = true := by
  have hByte : address / 1 % 256 < 256 := Nat.mod_lt _ (by decide)
  rw [endsInNumber, properLabels_dotted, List.getLast?_map]
  change (_ || (ipv4Part? (Nat.toDigits 10 (address / 1 % 256))).isSome) = true
  rw [ipv4Part?_toDigits _ hByte, Option.isSome_some, Bool.or_true]

theorem ipv4?_dotted {address : Nat} (h : address < 256 ^ 4) : ipv4? (dotted address).toList = some address := by
  have hCount : ((bytes address).map (Nat.toDigits 10)).length = 4 := List.length_map _
  have hLast : (bytes address).getLast? = some (address / 1 % 256) := rfl
  have hFront : (bytes address).dropLast = [address / 16777216 % 256, address / 65536 % 256, address / 256 % 256] := rfl
  have hBytes : (bytes address).dropLast.all (· ≤ 255) = true := by
    refine List.all_eq_true.2 fun b hb => decide_eq_true ?_
    exact Nat.le_of_lt_succ (bytes_lt (List.dropLast_subset _ hb))
  have hFit : address / 1 % 256 < Nat.pow 256 (4 - (bytes address).dropLast.length) := by
    rw [hFront]
    exact Nat.mod_lt _ (by decide)
  rw [ipv4?, properLabels_dotted, mapM_ipv4Part? fun b hb => bytes_lt hb]
  dsimp only
  rw [hCount, if_neg (by decide), hLast]
  dsimp only
  rw [if_pos ⟨hBytes, hFit⟩, hFront]
  refine congrArg some ?_
  change ((((0 * 256 + address / 16777216 % 256) * 256 + address / 65536 % 256) * 256 + address / 256 % 256) * 256 +
    address / 1 % 256 = address)
  omega

variable {toAscii : ToAscii}

/-- A name as it is left by a reading of names. -/
structure IsName (toAscii : ToAscii) (s : List Char) : Prop where
  allowed : ∀ c ∈ s, forbiddenInDomain c = false
  itself : toAscii (Utf8.encode s) = some s
  filled : s ≠ []

theorem bracketed?_of_allowed {s : List Char} (h : ∀ c ∈ s, forbiddenInDomain c = false) : bracketed? s = none := by
  unfold bracketed?
  split
  · exact absurd (by decide) (bounds_of_allowed (h '[' List.mem_cons_self)).2.2
  · rfl

/-- There is nothing in a name to be decoded. -/
theorem decode_of_allowed {s : List Char} (h : ∀ c ∈ s, forbiddenInDomain c = false) :
    Percent.decode (Utf8.encode s) = Utf8.encode s := by
  refine Percent.decode_of_plain fun c hc => ?_
  obtain ⟨-, hHigh, hOther⟩ := bounds_of_allowed (h c hc)
  refine ⟨by omega, ?_⟩
  rintro rfl
  exact hOther (by decide)

/-- Whether a name ends in a number decides what it is read as. -/
theorem IsName.parse_eq {s : List Char} (h : IsName toAscii s) : parse toAscii s =
    if endsInNumber s then
      match ipv4? s with
      | some address => .ok (.ipv4 address)
      | none => .error .invalidIpv4
    else .ok (.domain (String.ofList s)) := by
  rw [parse, bracketed?_of_allowed h.allowed, decode_of_allowed h.allowed]
  dsimp only
  rw [h.itself]
  dsimp only
  rw [List.isEmpty_eq_false_iff.2 h.filled]
  exact if_neg Bool.false_ne_true

theorem mem_dotted {address : Nat} {c : Char} (hc : c ∈ (dotted address).toList) : c = '.' ∨ c.isDigit = true := by
  rw [toList_dotted] at hc
  obtain hc | ⟨piece, hPiece, hc⟩ := mem_intercalate hc
  · exact .inl hc
  · obtain ⟨b, -, rfl⟩ := List.mem_map.1 hPiece
    exact .inr (isDigit_of_mem hc)

theorem kept_of_isDigit {c : Char} (hDigit : c.isDigit = true) : c.toLower = c ∧ forbiddenInDomain c = false := by
  have hLess : c.toNat < 0x80 := ascii_of_isAlphanum (by rw [Char.isAlphanum, hDigit, Bool.or_true])
  have hAll := of_kind (p := fun c => c.toLower == c && !forbiddenInDomain c) (by decide) hLess hDigit
  simpa using hAll

theorem kept_of_mem_dotted {address : Nat} {c : Char} (hc : c ∈ (dotted address).toList) :
    c.toLower = c ∧ forbiddenInDomain c = false := by
  obtain rfl | hDigit := mem_dotted hc
  · decide
  · exact kept_of_isDigit hDigit

theorem dotted_ne_nil (address : Nat) : (dotted address).toList ≠ [] := by
  intro hNil
  have hCount := congrArg List.length (splitWhere_dotted address)
  rw [hNil, List.length_map] at hCount
  cases hCount

theorem isName_dotted (hLaws : toAscii.Lawful) (address : Nat) : IsName toAscii (dotted address).toList where
  allowed _ hc := (kept_of_mem_dotted hc).2
  itself := by
    refine hLaws.keeps _ (fun c hc => kept_of_mem_dotted hc) fun label hLabel hMarked => ?_
    rw [splitWhere_dotted] at hLabel
    obtain ⟨b, -, rfl⟩ := List.mem_map.1 hLabel
    cases isDigit_of_mem (hMarked.subset List.mem_cons_self)
  filled := dotted_ne_nil address

inductive Canonical (toAscii : ToAscii) : Host → Prop where
  | domain {name : String} (isName : IsName toAscii name.toList) (notNumber : endsInNumber name.toList = false) :
      Canonical toAscii (.domain name)
  | ipv4 {address : Nat} (fits : address < 256 ^ 4) : Canonical toAscii (.ipv4 address)
  | ipv6 {pieces : List Nat} (isAddress : IsAddress pieces) : Canonical toAscii (.ipv6 pieces)

theorem bracketed?_canonical {s : List Char} {h : Host} (hRead : bracketed? s = some (.ok h)) :
    h.Canonical toAscii := by
  unfold bracketed? at hRead
  split at hRead
  · split at hRead
    · split at hRead
      · rename_i hPieces
        cases hRead
        exact .ipv6 (ipv6?_isAddress hPieces)
      · cases hRead
    · cases hRead
  · cases hRead

/-- Whatever is read is left in that form. -/
theorem parse_canonical (hLaws : toAscii.Lawful) {s : List Char} {h : Host} (hRead : parse toAscii s = .ok h) :
    h.Canonical toAscii := by
  unfold parse at hRead
  split at hRead
  · rename_i hBracket
    rw [hRead] at hBracket
    exact bracketed?_canonical hBracket
  · split at hRead
    · cases hRead
    · rename_i name hName
      split at hRead
      · cases hRead
      · rename_i hFilled
        split at hRead
        · split at hRead
          · rename_i hAddress
            cases hRead
            exact .ipv4 (ipv4?_lt hAddress)
          · cases hRead
        · rename_i hNumber
          cases hRead
          rw [Bool.not_eq_true, List.isEmpty_eq_false_iff] at hFilled
          refine .domain ?_ (by rw [String.toList_ofList]; exact Bool.eq_false_iff.2 hNumber)
          rw [String.toList_ofList]
          exact ⟨hLaws.allowed _ _ hName, hLaws.stable _ _ hName, hFilled⟩

theorem toList_text_ipv6 (pieces : List Nat) :
    (ipv6 pieces).text.toList = '[' :: ((colonHex pieces).toList ++ [']']) := by
  rw [text, String.toList_append, String.toList_append]
  rfl

/-- A host in that form is read from its text. -/
theorem Canonical.parse_text (hLaws : toAscii.Lawful) {h : Host} (hCanonical : h.Canonical toAscii) :
    parse toAscii h.text.toList = .ok h := by
  cases hCanonical with
  | @domain name hName hNumber =>
    rw [text, hName.parse_eq, hNumber, if_neg Bool.false_ne_true, String.ofList_toList]
  | @ipv4 address hFits =>
    rw [text, (isName_dotted hLaws address).parse_eq, endsInNumber_dotted, if_pos rfl, ipv4?_dotted hFits]
  | @ipv6 pieces hAddress =>
    have hLast : ((colonHex pieces).toList ++ [']']).getLast? = some ']' := List.getLast?_concat
    rw [toList_text_ipv6, parse, bracketed?, if_pos hLast, List.dropLast_concat, ipv6?_colonHex hAddress]

def inText (c : Char) : Bool :=
  isShown c && !"#/?@\\".toList.contains c

theorem inText_of_allowed {c : Char} (h : forbiddenInDomain c = false) : inText c = true := by
  have hLess : c.toNat < 0x80 := by
    have hBounds := bounds_of_allowed h
    omega
  refine of_kind (k := fun c => !forbiddenInDomain c) (by decide) hLess ?_
  rw [h, Bool.not_false]

theorem inText_of_isDigit {c : Char} (h : c.isDigit = true) : inText c = true :=
  inText_of_allowed (kept_of_isDigit h).2

theorem inText_digitChar : ∀ d < 16, inText d.digitChar = true := by
  decide

theorem digitChar_ne_bracket : ∀ d < 16, d.digitChar ≠ ']' ∧ d.digitChar ≠ '[' := by
  decide

theorem mem_joined {ps : List Nat} {c : Char} (hc : c ∈ joined ps) : c = ':' ∨ ∃ d < 16, c = d.digitChar := by
  obtain hc | ⟨piece, hPiece, hc⟩ := mem_intercalate hc
  · exact .inl hc
  · obtain ⟨p, -, rfl⟩ := List.mem_map.1 hPiece
    exact .inr (mem_toDigits (by decide) hc)

theorem mem_colonHex {pieces : List Nat} {c : Char} (hc : c ∈ (colonHex pieces).toList) :
    c = ':' ∨ ∃ d < 16, c = d.digitChar := by
  rw [toList_colonHex] at hc
  split at hc
  · exact mem_joined hc
  · rw [List.mem_append, List.mem_cons, List.mem_cons] at hc
    obtain hc | hc | hc | hc := hc
    · exact mem_joined hc
    · exact .inl hc
    · exact .inl hc
    · exact mem_joined hc

theorem Canonical.inText_of_mem {h : Host} (hCanonical : h.Canonical toAscii) {c : Char} (hc : c ∈ h.text.toList) :
    inText c = true := by
  cases hCanonical with
  | domain hName _ => exact inText_of_allowed (hName.allowed c hc)
  | ipv4 _ => exact inText_of_allowed (kept_of_mem_dotted hc).2
  | ipv6 _ =>
    rw [toList_text_ipv6, List.mem_cons, List.mem_append, List.mem_singleton] at hc
    obtain rfl | hc | rfl := hc
    · rfl
    · obtain rfl | ⟨d, hd, rfl⟩ := mem_colonHex hc
      · rfl
      · exact inText_digitChar d hd
    · rfl

theorem Canonical.text_ne_nil {h : Host} (hCanonical : h.Canonical toAscii) : h.text.toList ≠ [] := by
  cases hCanonical with
  | domain hName _ => exact hName.filled
  | ipv4 _ => exact dotted_ne_nil _
  | ipv6 _ =>
    rw [toList_text_ipv6]
    exact List.cons_ne_nil _ _

end Host

end BearerTokens
