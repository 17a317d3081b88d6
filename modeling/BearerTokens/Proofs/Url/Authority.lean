import BearerTokens.Proofs.Url.Host
import BearerTokens.Url.Parser

/-!
# Authorities that read back

Credentials, host and port as the reader of web URLs leaves them, and what is read from their text.
-/

set_option autoImplicit false

namespace BearerTokens

open BearerTokens.Text

namespace Url

theorem stable_staysInUserinfo : Percent.Stable staysInUserinfo :=
  .of_ascii rfl (by decide)

theorem credentials_kept (s : List Char) : Percent.Kept staysInUserinfo (credentials s).1.toList ∧
    ∀ password, (credentials s).2 = some password →
      Percent.Kept staysInUserinfo password.toList ∧ password.toList ≠ [] := by
  rw [credentials]
  dsimp only
  constructor
  · rw [encoded, String.toList_ofList]
    exact Percent.kept_encode stable_staysInUserinfo _
  · intro password hPassword
    split at hPassword
    · cases hPassword
    · rename_i hSome
      cases hPassword
      rw [encoded, String.toList_ofList]
      rw [List.isEmpty_iff] at hSome
      exact ⟨Percent.kept_encode stable_staysInUserinfo _, Percent.encode_ne_nil hSome⟩

/-- No character of encoded credentials ends them, or the authority. -/
theorem marks_of_staysInUserinfo {c : Char} (hc : c.toNat < 0x80 ∧ staysInUserinfo c = true) :
    c ≠ ':' ∧ c ≠ '@' ∧ endsAuthority true c = false := by
  have hAll := of_kind (p := fun c => c != ':' && c != '@' && !endsAuthority true c) (by decide) hc.1 hc.2
  simpa [and_assoc] using hAll

theorem credentials_name {name : List Char} (hName : Percent.Kept staysInUserinfo name) :
    credentials name = (String.ofList name, none) := by
  have hColon : ∀ c ∈ name, decide (c ≠ ':') = true := fun c hc =>
    decide_eq_true (marks_of_staysInUserinfo (hName c hc)).1
  rw [credentials, List.takeWhile_eq_self_iff.2 hColon, List.dropWhile_eq_nil_iff.2 hColon, encoded,
    Percent.encode_eq_self hName]
  rfl

theorem credentials_pair {name password : List Char} (hName : Percent.Kept staysInUserinfo name)
    (hPassword : Percent.Kept staysInUserinfo password) (hSome : password ≠ []) :
    credentials (name ++ ':' :: password) = (String.ofList name, some (String.ofList password)) := by
  have hColon : ∀ c ∈ name, decide (c ≠ ':') = true := fun c hc =>
    decide_eq_true (marks_of_staysInUserinfo (hName c hc)).1
  have hSpan := span_append hColon (':' :: password) fun c hc => by
    cases hc
    rfl
  rw [credentials, hSpan.1, hSpan.2, List.drop_one, List.tail_cons, List.isEmpty_eq_false_iff.2 hSome,
    if_neg Bool.false_ne_true, encoded, encoded, Percent.encode_eq_self hName, Percent.encode_eq_self hPassword]

theorem splitUserinfo_append (userinfo : List Char) {place : List Char} (hPlace : '@' ∉ place) :
    splitUserinfo (userinfo ++ '@' :: place) = some (userinfo, place) := by
  have hOther : ∀ c ∈ place.reverse, decide (c ≠ '@') = true := by
    intro c hc
    refine decide_eq_true ?_
    rintro rfl
    exact hPlace (List.mem_reverse.1 hc)
  have hAfter : (userinfo ++ '@' :: place).reverse.takeWhile (fun c => decide (c ≠ '@')) = place.reverse := by
    rw [List.reverse_append, List.reverse_cons, List.append_assoc, List.takeWhile_append_of_pos hOther]
    exact List.append_nil _
  have hAt : (userinfo ++ '@' :: place).contains '@' = true :=
    List.contains_iff_mem.2 (List.mem_append_right _ List.mem_cons_self)
  have hBefore : (userinfo ++ '@' :: place).length - place.length - 1 = userinfo.length := by
    rw [List.length_append, List.length_cons]
    omega
  rw [splitUserinfo, if_pos hAt, hAfter, List.reverse_reverse]
  dsimp only
  rw [hBefore, List.take_left]

theorem splitUserinfo_none {place : List Char} (hPlace : '@' ∉ place) : splitUserinfo place = none :=
  if_neg (mt List.contains_iff_mem.1 hPlace)

theorem port_fits {scheme : String} {s rest : List Char} {found : Option Nat}
    (h : port scheme s = .ok (found, rest)) {n : Nat} (hn : found = some n) :
    n ≤ 65535 ∧ defaultPort? scheme ≠ some n := by
  have hKept {digits : List Char} {m : Nat} (hMost : ¬ 65535 < m) (hm : port.kept scheme digits m = some n) :
      n ≤ 65535 ∧ defaultPort? scheme ≠ some n := by
    unfold port.kept at hm
    split at hm
    · cases hm
    · rename_i hOther
      cases hm
      exact ⟨Nat.le_of_not_lt hMost, fun hDefault => hOther (.inr hDefault)⟩
  unfold port at h
  dsimp only at h
  split at h
  · cases h
  · rename_i hMost
    split at h
    · split at h
      · cases h
        exact hKept hMost hn
      · cases h
    · cases h
      exact hKept hMost hn

theorem port_toDigits {scheme : String} {n : Nat} (hMost : n ≤ 65535) (hOther : defaultPort? scheme ≠ some n) :
    port scheme (Nat.toDigits 10 n) = .ok (some n, []) := by
  have hDigits : ∀ c ∈ Nat.toDigits 10 n, c.isDigit = true := fun c hc => Host.isDigit_of_mem hc
  have hValue : (Nat.toDigits 10 n).foldl (fun m c => m * 10 + (c.toNat - 48)) 0 = n := by
    have hRead := Nat.ofDigitChars_toDigits (b := 10) (n := n) (by decide) (by decide)
    rw [Nat.ofDigitChars_eq_foldl] at hRead
    refine Eq.trans ?_ hRead
    refine congrArg (fun f => (Nat.toDigits 10 n).foldl f 0) (funext fun m => funext fun c => ?_)
    rw [Nat.mul_comm]
    rfl
  have hKept : port.kept scheme (Nat.toDigits 10 n) n = some n := by
    rw [port.kept, if_neg]
    rintro (hNil | hDefault)
    · exact Nat.toDigits_ne_nil (List.isEmpty_iff.1 hNil)
    · exact hOther hDefault
  rw [port, List.takeWhile_eq_self_iff.2 hDigits, List.dropWhile_eq_nil_iff.2 hDigits]
  dsimp only
  rw [hValue, if_neg (Nat.not_lt.2 hMost), hKept]

theorem hostLength_append {s : List Char} (hs : ∀ c ∈ s, c ≠ ':' ∧ c ≠ '[') (rest : List Char) :
    hostLength false (s ++ rest) = s.length + hostLength false rest := by
  induction s with
  | nil => exact (Nat.zero_add _).symm
  | cons c s ih =>
    obtain ⟨⟨hColon, hOpen⟩, hTail⟩ := List.forall_mem_cons.1 hs
    rw [List.cons_append, hostLength, if_neg fun h => hColon h.1, if_neg hOpen, ite_self, ih hTail, List.length_cons]
    omega

theorem hostLength_bracketed {s : List Char} (hs : ∀ c ∈ s, c ≠ ']' ∧ c ≠ '[') (rest : List Char) :
    hostLength true (s ++ ']' :: rest) = s.length + 1 + hostLength false rest := by
  induction s with
  | nil =>
    rw [List.nil_append, hostLength, if_neg (by decide), if_neg (by decide), if_pos rfl]
    rfl
  | cons c s ih =>
    obtain ⟨⟨hClose, hOpen⟩, hTail⟩ := List.forall_mem_cons.1 hs
    rw [List.cons_append, hostLength, if_neg fun h => Bool.noConfusion h.2, if_neg hOpen, if_neg hClose, ih hTail,
      List.length_cons]
    omega

end Url

theorem Host.Canonical.hostLength_text {toAscii : ToAscii} {h : Host} (hCanonical : h.Canonical toAscii)
    {rest : List Char} (hRest : Url.hostLength false rest = 0) :
    Url.hostLength false (h.text.toList ++ rest) = h.text.toList.length := by
  have hName {s : List Char} (hs : ∀ c ∈ s, Host.forbiddenInDomain c = false) :
      Url.hostLength false (s ++ rest) = s.length := by
    rw [Url.hostLength_append _ rest, hRest, Nat.add_zero]
    intro c hc
    have hOther := (Host.bounds_of_allowed (hs c hc)).2.2
    constructor
    · rintro rfl
      exact hOther (by decide)
    · rintro rfl
      exact hOther (by decide)
  cases hCanonical with
  | domain isName _ => exact hName isName.allowed
  | ipv4 _ => exact hName fun c hc => (Host.kept_of_mem_dotted hc).2
  | @ipv6 pieces _ =>
    have hInside : ∀ c ∈ (Host.colonHex pieces).toList, c ≠ ']' ∧ c ≠ '[' := by
      intro c hc
      obtain rfl | ⟨d, hd, rfl⟩ := Host.mem_colonHex hc
      · decide
      · exact Host.digitChar_ne_bracket d hd
    rw [Host.toList_text_ipv6, List.cons_append, List.append_assoc, List.singleton_append, Url.hostLength,
      if_neg (by decide), if_pos rfl, Url.hostLength_bracketed hInside, hRest, List.length_cons, List.length_append,
      List.length_singleton]
    omega

theorem Host.not_ends_of_inText {c : Char} (h : Host.inText c = true) : Url.endsAuthority true c = false := by
  have hLess : c.toNat < 0x80 := by
    rw [Host.inText, Bool.and_eq_true, isShown_iff] at h
    omega
  have hAll := of_kind (p := fun c => !Url.endsAuthority true c) (by decide) hLess h
  simpa using hAll

namespace Authority

variable {toAscii : ToAscii} {scheme : String} {a : Authority}

structure Canonical (toAscii : ToAscii) (scheme : String) (a : Authority) : Prop where
  username : Percent.Kept Url.staysInUserinfo a.username.toList
  password : ∀ password, a.password = some password →
    Percent.Kept Url.staysInUserinfo password.toList ∧ password.toList ≠ []
  host : a.host.Canonical toAscii
  port : ∀ n, a.port = some n → n ≤ 65535 ∧ Url.defaultPort? scheme ≠ some n

/-- Whatever is read is left in that form. -/
theorem authorityOf_canonical (hLaws : toAscii.Lawful) {s rest : List Char}
    (h : Url.authorityOf toAscii scheme true s = .ok (a, rest)) : a.Canonical toAscii scheme := by
  unfold Url.authorityOf at h
  dsimp only at h
  split at h
  · cases h
  · split at h
    · cases h
    · split at h
      · cases h
      · rename_i hHost
        have hHost := Host.parse_canonical hLaws hHost
        split at h
        · split at h
          · cases h
          · rename_i hPort
            cases h
            exact ⟨(Url.credentials_kept _).1, (Url.credentials_kept _).2, hHost, fun n hn => Url.port_fits hPort hn⟩
        · split at h
          · cases h
          · cases h
            exact ⟨(Url.credentials_kept _).1, (Url.credentials_kept _).2, hHost, fun n hn => nomatch hn⟩

def place (a : Authority) : List Char :=
  a.host.text.toList ++
    match a.port with
    | some port => ':' :: Nat.toDigits 10 port
    | none => []

theorem toList_text (a : Authority) : a.text.toList = a.userinfo.toList ++ a.place := by
  rw [text, place, String.toList_append, String.toList_append, List.append_assoc]
  cases a.port with
  | none => rfl
  | some port =>
    rw [String.toList_append, Host.toList_toString]
    rfl

theorem Canonical.marks_of_mem_place (h : a.Canonical toAscii scheme) {c : Char} (hc : c ∈ a.place) :
    c = ':' ∨ Host.inText c = true := by
  rw [place, List.mem_append] at hc
  obtain hc | hc := hc
  · exact .inr (h.host.inText_of_mem hc)
  · split at hc
    · obtain rfl | hc := List.mem_cons.1 hc
      · exact .inl rfl
      · exact .inr (Host.inText_of_isDigit (Host.isDigit_of_mem hc))
    · cases hc

theorem Canonical.not_at_mem_place (h : a.Canonical toAscii scheme) : '@' ∉ a.place := by
  intro hAt
  obtain hColon | hText := h.marks_of_mem_place hAt
  · cases hColon
  · cases hText

/-- The credentials are what stands before the last `@`. -/
theorem Canonical.exists_userinfo (h : a.Canonical toAscii scheme) : ∃ userinfo : List Char,
    (Url.splitUserinfo a.text.toList).getD ([], a.text.toList) = (userinfo, a.place) ∧
      Url.credentials userinfo = (a.username, a.password) := by
  rw [toList_text, userinfo]
  cases hPassword : a.password with
  | some password =>
    obtain ⟨hKept, hSome⟩ := h.password password hPassword
    refine ⟨a.username.toList ++ ':' :: password.toList, ?_, ?_⟩
    · have hText : (a.username ++ ":" ++ password ++ "@").toList ++ a.place =
          (a.username.toList ++ ':' :: password.toList) ++ '@' :: a.place := by
        simp
      rw [hText, Url.splitUserinfo_append _ h.not_at_mem_place]
      rfl
    · rw [Url.credentials_pair h.username hKept hSome, String.ofList_toList, String.ofList_toList]
  | none =>
    dsimp only
    split
    -- without a name and a password there is no sign either
    · rename_i hEmpty
      have hName : a.username = "" := String.isEmpty_iff.1 hEmpty
      refine ⟨[], ?_, ?_⟩
      · have hText : "".toList ++ a.place = a.place := List.nil_append _
        rw [hText, Url.splitUserinfo_none h.not_at_mem_place]
        rfl
      · rw [hName]
        rfl
    · refine ⟨a.username.toList, ?_, ?_⟩
      · have hText : (a.username ++ "@").toList ++ a.place = a.username.toList ++ '@' :: a.place := by
          simp
        rw [hText, Url.splitUserinfo_append _ h.not_at_mem_place]
        rfl
      · rw [Url.credentials_name h.username, String.ofList_toList]

theorem Canonical.mem_userinfo (h : a.Canonical toAscii scheme) {c : Char} (hc : c ∈ a.userinfo.toList) :
    c = ':' ∨ c = '@' ∨ c.toNat < 0x80 ∧ Url.staysInUserinfo c = true := by
  have hName := h.username c
  unfold userinfo at hc
  split at hc
  · rename_i password hPassword
    have hKept := (h.password password hPassword).1 c
    simp only [String.toList_append, List.mem_append] at hc
    obtain ((hc | hc) | hc) | hc := hc
    · exact .inr (.inr (hName hc))
    · exact .inl (List.mem_singleton.1 hc)
    · exact .inr (.inr (hKept hc))
    · exact .inr (.inl (List.mem_singleton.1 hc))
  · split at hc
    · cases hc
    · rw [String.toList_append, List.mem_append] at hc
      obtain hc | hc := hc
      · exact .inr (.inr (hName hc))
      · exact .inr (.inl (List.mem_singleton.1 hc))

/-- What an authority is written with does not end it. -/
theorem Canonical.not_ends_of_mem (h : a.Canonical toAscii scheme) {c : Char} (hc : c ∈ a.text.toList) :
    Url.endsAuthority true c = false := by
  rw [toList_text, List.mem_append] at hc
  obtain hc | hc := hc
  · obtain rfl | rfl | hKept := h.mem_userinfo hc
    · rfl
    · rfl
    · exact (Url.marks_of_staysInUserinfo hKept).2.2
  · obtain rfl | hText := h.marks_of_mem_place hc
    · rfl
    · exact Host.not_ends_of_inText hText

theorem Canonical.place_ne_nil (h : a.Canonical toAscii scheme) : a.place ≠ [] :=
  List.append_ne_nil_of_left_ne_nil h.host.text_ne_nil _

theorem Canonical.text_ne_nil (h : a.Canonical toAscii scheme) : a.text.toList ≠ [] := by
  rw [toList_text]
  exact List.append_ne_nil_of_right_ne_nil _ h.place_ne_nil

/-- An authority in that form is read from its text, up to the character that ends it. -/
theorem Canonical.authorityOf_text (hLaws : toAscii.Lawful) (h : a.Canonical toAscii scheme) {after : List Char}
    (hAfter : ∀ c, after.head? = some c → Url.endsAuthority true c = true) :
    Url.authorityOf toAscii scheme true (a.text.toList ++ after) = .ok (a, after) := by
  have hInside : ∀ c ∈ a.text.toList, (!Url.endsAuthority true c) = true := by
    intro c hc
    rw [h.not_ends_of_mem hc]
    rfl
  have hSpan := span_append hInside after fun c hc => by
    rw [hAfter c hc]
    rfl
  obtain ⟨userinfo, hSplit, hCredentials⟩ := h.exists_userinfo
  have hFilled : a.place.isEmpty = false := List.isEmpty_eq_false_iff.2 h.place_ne_nil
  have hLength : Url.hostLength false a.place = a.host.text.toList.length := by
    refine h.host.hostLength_text ?_
    cases a.port <;> rfl
  rw [Url.authorityOf, hSpan.1, hSpan.2, hSplit]
  dsimp only
  rw [hFilled, hLength, hCredentials, place, List.take_left, List.drop_left]
  dsimp only
  rw [if_neg (by simp), List.isEmpty_eq_false_iff.2 h.host.text_ne_nil, if_neg (by simp), if_pos rfl,
    h.host.parse_text hLaws]
  dsimp only
  cases hPort : a.port with
  | none =>
    simp only [Bool.false_eq_true, false_and, if_false]
    rw [← hPort]
  | some port =>
    obtain ⟨hMost, hOther⟩ := h.port port hPort
    simp only [Url.port_toDigits hMost hOther, List.nil_append]
    rw [← hPort]

end Authority

end BearerTokens
