import BearerTokens.Http.Target
import BearerTokens.Proofs.Url.Canonical

/-!
# URLs as request targets

A URL of the web that is in canonical form is a target unless it is too long, or a name in its host holds one of the
four characters that targets do not have and names do. Everything else about it is as targets want it.
-/

set_option autoImplicit false

namespace BearerTokens.Http

open BearerTokens.Text

def isForeignToTargets (c : Char) : Bool :=
  "\"`\x7b\x7d".toList.contains c

namespace AuthorityScan

def scan (a : AuthorityScan) (s : List Char) : Except TargetError AuthorityScan :=
  s.foldlM push a

theorem scan_append {a b : AuthorityScan} {s : List Char} (h : a.scan s = .ok b) (t : List Char) :
    a.scan (s ++ t) = b.scan t := by
  rw [scan] at h
  rw [scan, List.foldlM_append, h]
  rfl

theorem scan_cons {a b : AuthorityScan} {c : Char} (h : a.push c = .ok b) (t : List Char) :
    a.scan (c :: t) = b.scan t := by
  rw [scan, List.foldlM_cons, h]
  rfl

/-- A character that an authority may have anywhere and that means nothing in it. -/
def isInside (c : Char) : Bool :=
  inAuthority c && !":@[]".toList.contains c

theorem push_inside (a : AuthorityScan) {c : Char} (hc : isInside c = true) :
    a.push c = .ok { a with justAt := false } := by
  have hNot {d : Char} (hd : isInside d = false) : c ≠ d := Form.ne_of_told hc hd
  rw [isInside, Bool.and_eq_true] at hc
  rw [push, if_neg (hNot rfl), if_neg (hNot rfl), if_neg (hNot rfl), if_neg (hNot rfl), if_neg (hNot rfl), if_pos hc.1]

theorem scan_inside (a : AuthorityScan) {s : List Char} (hs : ∀ c ∈ s, isInside c = true) (hSome : s ≠ []) :
    a.scan s = .ok { a with justAt := false } := by
  induction s generalizing a with
  | nil => exact absurd rfl hSome
  | cons c s ih =>
    obtain ⟨hc, hMore⟩ := List.forall_mem_cons.1 hs
    rw [scan_cons (a.push_inside hc)]
    cases s with
    | nil => rfl
    | cons d s => exact ih _ hMore (List.cons_ne_nil d s)

/-- Nothing that counts has been read. -/
structure Fresh (a : AuthorityScan) : Prop where
  colons : a.colons = 0
  opened : a.opened = false
  closed : a.closed = false
  percent : a.percent = false

theorem fresh_start : Fresh {} := ⟨rfl, rfl, rfl, rfl⟩

/-- Two scans that differ in percent signs at most, and in what the last character was. -/
structure Alike (a b : AuthorityScan) : Prop where
  colons : b.colons = a.colons
  opened : b.opened = a.opened
  closed : b.closed = a.closed

theorem Alike.trans {a b c : AuthorityScan} (h : Alike a b) (h' : Alike b c) : Alike a c :=
  ⟨h'.colons.trans h.colons, h'.opened.trans h.opened, h'.closed.trans h.closed⟩

theorem scan_userinfo (a : AuthorityScan) {s : List Char} (hs : Percent.Kept Url.staysInUserinfo s) :
    ∃ b, a.scan s = .ok b ∧ Alike a b := by
  induction s generalizing a with
  | nil => exact ⟨a, rfl, rfl, rfl, rfl⟩
  | cons c s ih =>
    obtain ⟨hc, hMore⟩ := List.forall_mem_cons.1 hs
    have hPush : ∃ b, a.push c = .ok b ∧ Alike a b := by
      rcases eq_or_ne c '%' with rfl | hPercent
      · exact ⟨_, rfl, rfl, rfl, rfl⟩
      · have hKind := of_kind (p := fun c => c == '%' || isInside c) (by decide) hc.1 hc.2
        rw [beq_false_of_ne hPercent, Bool.false_or] at hKind
        exact ⟨_, a.push_inside hKind, rfl, rfl, rfl⟩
    obtain ⟨b, hFirst, hAlike⟩ := hPush
    obtain ⟨d, hRest, hAlike'⟩ := ih b hMore
    exact ⟨d, by rw [scan_cons hFirst, hRest], hAlike.trans hAlike'⟩

/-- The sign behind the credentials lets all that was before it count for nothing. -/
theorem scan_credentials {toAscii : ToAscii} {scheme : String} {a : Authority} (h : a.Canonical toAscii scheme) :
    ∃ b, scan {} a.userinfo.toList = .ok b ∧ Fresh b := by
  obtain ⟨n, hName, hAlike⟩ := scan_userinfo {} h.username
  rw [Authority.userinfo]
  cases hPassword : a.password with
  | some password =>
    obtain ⟨m, hWord, hAlike'⟩ := scan_userinfo { n with colons := 1, justAt := false } (h.password password hPassword).1
    have hColon : n.push ':' = .ok { n with colons := 1, justAt := false } := by
      rw [push, if_pos rfl, hAlike.colons, if_neg (by decide)]
    have hText : (a.username ++ ":" ++ password ++ "@").toList =
        a.username.toList ++ ':' :: (password.toList ++ ['@']) := by
      simp
    refine ⟨{ m with colons := 0, percent := false, justAt := true }, ?_, rfl, ?_, ?_, rfl⟩
    · rw [hText, scan_append hName, scan_cons hColon, scan_append hWord]
      rfl
    · exact hAlike'.opened.trans hAlike.opened
    · exact hAlike'.closed.trans hAlike.closed
  | none =>
    dsimp only
    split
    · exact ⟨{}, rfl, fresh_start⟩
    · refine ⟨{ n with colons := 0, percent := false, justAt := true }, ?_, rfl, hAlike.opened, hAlike.closed, rfl⟩
      rw [String.toList_append, scan_append hName]
      rfl

theorem inside_or_foreign {c : Char} (h : Host.forbiddenInDomain c = false) :
    isInside c = true ∨ isForeignToTargets c = true := by
  have hLess : c.toNat < 0x80 := by
    have hBounds := Host.bounds_of_allowed h
    omega
  have hKind := of_kind (k := fun c => !Host.forbiddenInDomain c) (p := fun c => isInside c || isForeignToTargets c)
    (by decide) hLess (by rw [h]; rfl)
  rwa [Bool.or_eq_true] at hKind

theorem push_foreign (a : AuthorityScan) {c : Char} (hc : isForeignToTargets c = true) :
    a.push c = .error .invalidCharacter := by
  have hMem : c ∈ "\"`\x7b\x7d".toList := List.contains_iff_mem.1 hc
  have hFour : "\"`\x7b\x7d".toList = ['"', '`', '\x7b', '\x7d'] := rfl
  rw [hFour] at hMem
  simp only [List.mem_cons, List.not_mem_nil, or_false] at hMem
  obtain rfl | rfl | rfl | rfl := hMem
  · rfl
  · rfl
  · rfl
  · rfl

theorem not_foreign_of_inside {c : Char} (h : isInside c = true) : isForeignToTargets c = false := by
  refine Bool.eq_false_iff.2 fun hForeign => ?_
  have hAgain := push_inside {} h
  rw [push_foreign {} hForeign] at hAgain
  cases hAgain

theorem scan_foreign (a : AuthorityScan) {s : List Char} (hs : ∀ c ∈ s, isInside c = true ∨ isForeignToTargets c = true)
    (hForeign : ∃ c ∈ s, isForeignToTargets c = true) (rest : List Char) :
    a.scan (s ++ rest) = .error .invalidCharacter := by
  induction s generalizing a with
  | nil =>
    obtain ⟨c, hc, -⟩ := hForeign
    cases hc
  | cons c s ih =>
    obtain ⟨hc, hMore⟩ := List.forall_mem_cons.1 hs
    rw [List.cons_append]
    obtain hc | hc := hc
    · rw [scan_cons (a.push_inside hc)]
      refine ih _ hMore ?_
      obtain ⟨d, hd, hForeign⟩ := hForeign
      obtain rfl | hd := List.mem_cons.1 hd
      · exact absurd hForeign (by rw [not_foreign_of_inside hc]; exact Bool.false_ne_true)
      · exact ⟨d, hd, hForeign⟩
    · rw [scan, List.foldlM_cons, a.push_foreign hc]
      rfl

theorem scan_colons (a : AuthorityScan) {s : List Char} (hs : ∀ c ∈ s, c = ':' ∨ isInside c = true)
    (hFew : a.colons + s.count ':' ≤ maxColons) :
    ∃ b, a.scan s = .ok b ∧ b.opened = a.opened ∧ b.closed = a.closed ∧ b.percent = a.percent := by
  induction s generalizing a with
  | nil => exact ⟨a, rfl, rfl, rfl, rfl⟩
  | cons c s ih =>
    obtain ⟨hc, hMore⟩ := List.forall_mem_cons.1 hs
    obtain rfl | hc := hc
    · rw [List.count_cons_self] at hFew
      have hPush : a.push ':' = .ok { a with colons := a.colons + 1, justAt := false } := by
        rw [push, if_pos rfl, if_neg (by omega)]
      rw [scan_cons hPush]
      exact ih { a with colons := a.colons + 1, justAt := false } hMore (by dsimp only; omega)
    · have hOther : c ≠ ':' := Form.ne_of_told hc rfl
      rw [List.count_cons_of_ne hOther] at hFew
      rw [scan_cons (a.push_inside hc)]
      exact ih { a with justAt := false } hMore hFew

theorem count_joined_le (ps : List Nat) : (Host.joined ps).count ':' ≤ ps.length := by
  induction ps with
  | nil => exact Nat.le_refl _
  | cons p ps ih =>
    have hNone : (Nat.toDigits 16 p).count ':' = 0 := by
      refine List.count_eq_zero_of_not_mem fun hColon => ?_
      cases Host.isSome_hexValue?_of_mem hColon
    cases ps with
    | nil =>
      rw [Host.joined_singleton, hNone]
      exact Nat.zero_le _
    | cons q ps =>
      rw [Host.joined_cons_cons, List.count_append, List.count_cons_self, hNone, List.length_cons]
      omega

theorem count_colonHex_le {pieces : List Nat} (h : pieces.length = 8) :
    (Host.colonHex pieces).toList.count ':' ≤ maxColons := by
  have hBefore := count_joined_le (pieces.take (Host.longestZeros pieces).1)
  have hAfter := count_joined_le (pieces.drop ((Host.longestZeros pieces).1 + (Host.longestZeros pieces).2))
  have hWhole := count_joined_le pieces
  have hRun := Nat.le_trans (Host.longestZeros_le pieces) (List.takeWhile_sublist _).length_le
  rw [List.length_drop] at hRun
  rw [List.length_take] at hBefore
  rw [List.length_drop] at hAfter
  rw [Host.toList_colonHex, maxColons]
  split
  · omega
  · rw [List.count_append, List.count_cons_self, List.count_cons_self]
    omega

/-- A host has been read, and nothing of it counts any more. -/
structure Passed (a : AuthorityScan) : Prop where
  colons : a.colons = 0
  opened : a.opened = a.closed
  percent : a.percent = false
  justAt : a.justAt = false

theorem scan_name {a : AuthorityScan} (hFresh : a.Fresh) {s : List Char}
    (hAllowed : ∀ c ∈ s, Host.forbiddenInDomain c = false) (hFilled : s ≠ [])
    (hPlain : ∀ c ∈ s, isForeignToTargets c = false) : ∃ b, a.scan s = .ok b ∧ b.Passed := by
  refine ⟨_, a.scan_inside ?_ hFilled, hFresh.colons, hFresh.opened.trans hFresh.closed.symm, hFresh.percent, rfl⟩
  intro c hc
  refine (inside_or_foreign (hAllowed c hc)).resolve_right ?_
  rw [hPlain c hc]
  exact Bool.false_ne_true

theorem inside_digitChar : ∀ d < 16, isInside d.digitChar = true := by
  decide

theorem scan_host {toAscii : ToAscii} {a : AuthorityScan} (hFresh : a.Fresh) {h : Host}
    (hCanonical : h.Canonical toAscii) (hPlain : ∀ c ∈ h.text.toList, isForeignToTargets c = false) :
    ∃ b, a.scan h.text.toList = .ok b ∧ b.Passed := by
  cases hCanonical with
  | domain hName _ => exact scan_name hFresh hName.allowed hName.filled hPlain
  | ipv4 _ => 
    exact scan_name hFresh (fun c hc => (Host.kept_of_mem_dotted hc).2) (Host.dotted_ne_nil _) hPlain
  | @ipv6 pieces hAddress =>
    have hOpen : a.push '[' = .ok { a with opened := true, justAt := false } := by
      rw [push, if_neg (by decide), if_pos rfl, hFresh.percent, hFresh.opened, if_neg (by decide)]
    have hChars : ∀ c ∈ (Host.colonHex pieces).toList, c = ':' ∨ isInside c = true := by
      intro c hc
      obtain hc | ⟨d, hd, rfl⟩ := Host.mem_colonHex hc
      · exact .inl hc
      · exact .inr (inside_digitChar d hd)
    have hFew : a.colons + (Host.colonHex pieces).toList.count ':' ≤ maxColons := by
      rw [hFresh.colons, Nat.zero_add]
      exact count_colonHex_le hAddress.eight
    obtain ⟨b, hScan, hOpened, hClosed, hPercent⟩ :=
      scan_colons { a with opened := true, justAt := false } hChars hFew
    have hClose : b.push ']' = .ok { b with closed := true, colons := 0, percent := false, justAt := false } := by
      rw [push, if_neg (by decide), if_neg (by decide), if_pos rfl, hOpened, hClosed]
      exact if_neg (by simp [hFresh.closed])
    refine ⟨{ b with closed := true, colons := 0, percent := false, justAt := false }, ?_, rfl, hOpened, rfl, rfl⟩
    rw [Host.toList_text_ipv6, scan_cons hOpen, scan_append hScan, scan_cons hClose]
    rfl

theorem scan_host_foreign {toAscii : ToAscii} (a : AuthorityScan) {h : Host} (hCanonical : h.Canonical toAscii)
    (hForeign : ∃ c ∈ h.text.toList, isForeignToTargets c = true) (rest : List Char) :
    a.scan (h.text.toList ++ rest) = .error .invalidCharacter := by
  cases hCanonical with
  | domain hName _ => exact a.scan_foreign (fun c hc => inside_or_foreign (hName.allowed c hc)) hForeign rest
  | ipv4 _ =>
    exact a.scan_foreign (fun c hc => inside_or_foreign (Host.kept_of_mem_dotted hc).2) hForeign rest
  | @ipv6 pieces _ =>
    obtain ⟨c, hc, hForeign⟩ := hForeign
    rw [Host.toList_text_ipv6, List.mem_cons, List.mem_append, List.mem_singleton] at hc
    obtain rfl | hc | rfl := hc
    · cases hForeign
    · obtain rfl | ⟨d, hd, rfl⟩ := Host.mem_colonHex hc
      · cases hForeign
      · rw [not_foreign_of_inside (inside_digitChar d hd)] at hForeign
        cases hForeign
    · cases hForeign

theorem inside_of_isDigit {c : Char} (h : c.isDigit = true) : isInside c = true :=
  of_kind (by decide) (ascii_of_isAlphanum (by rw [Char.isAlphanum, h, Bool.or_true])) h

/-- A port is what may follow a host. -/
theorem scan_port {a : AuthorityScan} (hPassed : a.Passed) (port : Option Nat) : ∃ b,
    a.scan (match port with
      | some port => ':' :: Nat.toDigits 10 port
      | none => []) = .ok b ∧ b.isProper = true := by
  cases port with
  | none =>
    refine ⟨a, rfl, ?_⟩
    rw [isProper, hPassed.colons, hPassed.opened, hPassed.percent, hPassed.justAt, beq_self_eq_true]
    rfl
  | some port =>
    have hColon : a.push ':' = .ok { a with colons := 1, justAt := false } := by
      rw [push, if_pos rfl, hPassed.colons, if_neg (by decide)]
    refine ⟨{ a with colons := 1, justAt := false }, ?_, ?_⟩
    · dsimp only
      rw [scan_cons hColon, scan_inside _ (fun c hc => inside_of_isDigit (Host.isDigit_of_mem hc)) Nat.toDigits_ne_nil]
    · rw [isProper]
      dsimp only
      rw [hPassed.opened, hPassed.percent, beq_self_eq_true]
      rfl

end AuthorityScan

section Authority

variable {toAscii : ToAscii} {scheme : String} {a : Authority}

theorem checkAuthority_text (h : a.Canonical toAscii scheme)
    (hPlain : ∀ c ∈ a.host.text.toList, isForeignToTargets c = false) :
    checkAuthority a.text.toList = .ok () := by
  obtain ⟨b, hCredentials, hFresh⟩ := AuthorityScan.scan_credentials h
  obtain ⟨d, hHost, hPassed⟩ := AuthorityScan.scan_host hFresh h.host hPlain
  obtain ⟨e, hPort, hProper⟩ := AuthorityScan.scan_port hPassed a.port
  have hScan : AuthorityScan.scan {} a.text.toList = .ok e := by
    rw [Authority.toList_text, Authority.place, AuthorityScan.scan_append hCredentials, AuthorityScan.scan_append hHost]
    exact hPort
  rw [AuthorityScan.scan] at hScan
  rw [checkAuthority, hScan]
  exact if_pos hProper

theorem checkAuthority_text_foreign (h : a.Canonical toAscii scheme)
    (hForeign : ∃ c ∈ a.host.text.toList, isForeignToTargets c = true) :
    checkAuthority a.text.toList = .error .invalidCharacter := by
  obtain ⟨b, hCredentials, -⟩ := AuthorityScan.scan_credentials h
  have hScan : AuthorityScan.scan {} a.text.toList = .error .invalidCharacter := by
    rw [Authority.toList_text, Authority.place, AuthorityScan.scan_append hCredentials]
    exact b.scan_host_foreign h.host hForeign _
  rw [AuthorityScan.scan] at hScan
  rw [checkAuthority, hScan]

end Authority

section Whole

variable {toAscii : ToAscii} {u : Url}

theorem inTargetPath_of_stays {c : Char} (h : c.toNat < 0x80 ∧ Url.staysInPath c = true) :
    inTargetPath c = true ∧ c ≠ '#' ∧ c ≠ '?' := by
  have hKind := of_kind (p := fun c => inTargetPath c && c != '#' && c != '?') (by decide) h.1 h.2
  simpa [and_assoc] using hKind

theorem inTargetQuery_of_stays {c : Char} (h : c.toNat < 0x80 ∧ Url.staysInQuery true c = true) :
    inTargetQuery c = true ∧ c ≠ '#' := by
  have hKind := of_kind (p := fun c => inTargetQuery c && c != '#') (by decide) h.1 h.2
  simpa using hKind

theorem mem_path (h : u.Canonical toAscii) {c : Char} (hc : c ∈ u.path.text.toList) :
    inTargetPath c = true ∧ c ≠ '#' ∧ c ≠ '?' := by
  obtain ⟨items, hPath, hItems⟩ := h.path
  rw [hPath] at hc
  exact inTargetPath_of_stays (hItems.mem_text hc)

theorem before_fragment (h : u.Canonical toAscii) :
    u.rest.takeWhile (fun c => decide (c ≠ '#')) = u.path.text.toList ++ Url.queryText u.query := by
  have hInside : ∀ c ∈ u.path.text.toList ++ Url.queryText u.query, decide (c ≠ '#') = true := by
    intro c hc
    rw [List.mem_append] at hc
    obtain hc | hc := hc
    · exact decide_eq_true (mem_path h hc).2.1
    · obtain rfl | ⟨q, hQuery, hc⟩ := Url.mem_queryText hc
      · rfl
      · exact decide_eq_true (inTargetQuery_of_stays (h.query q hQuery c hc)).2
  rw [Url.rest, Url.tail, ← List.append_assoc]
  refine (span_append hInside _ fun c hc => ?_).1
  cases hFragment : u.fragment with
  | none =>
    rw [hFragment] at hc
    cases hc
  | some f =>
    rw [hFragment] at hc
    cases hc
    rfl

theorem split_query (h : u.Canonical toAscii) :
    (u.path.text.toList ++ Url.queryText u.query).takeWhile (fun c => decide (c ≠ '?')) = u.path.text.toList ∧
      (u.path.text.toList ++ Url.queryText u.query).dropWhile (fun c => decide (c ≠ '?')) = Url.queryText u.query := by
  refine span_append (fun c hc => decide_eq_true (mem_path h hc).2.2) _ fun c hc => ?_
  cases hQuery : u.query with
  | none =>
    rw [hQuery] at hc
    cases hc
  | some q =>
    rw [hQuery] at hc
    cases hc
    rfl

/-- The fragment is left out, and what stands before it is taken as it is. -/
theorem pathAndQuery_rest (h : u.Canonical toAscii) : pathAndQuery u.rest = .ok (u.path.text, u.query) := by
  have hAll : u.path.text.toList.all inTargetPath = true := List.all_eq_true.2 fun c hc => (mem_path h hc).1
  obtain ⟨hBefore, hBehind⟩ := split_query h
  rw [pathAndQuery, before_fragment h, hBefore, hBehind, hAll, String.ofList_toList]
  cases hQuery : u.query with
  | none =>
    have hNone : (u.path.text.toList ++ Url.queryText none).contains '?' = false := by
      rw [Url.queryText, List.append_nil]
      exact Bool.eq_false_iff.2 fun hMem => (mem_path h (List.contains_iff_mem.1 hMem)).2.2 rfl
    rw [hNone]
    rfl
  | some q =>
    have hSome : (u.path.text.toList ++ Url.queryText (some q)).contains '?' = true :=
      List.contains_iff_mem.2 (List.mem_append_right _ List.mem_cons_self)
    have hQueryAll : q.toList.all inTargetQuery = true :=
      List.all_eq_true.2 fun c hc => (inTargetQuery_of_stays (h.query q hQuery c hc)).1
    have hDrop : (Url.queryText (some q)).drop 1 = q.toList := rfl
    rw [hSome, hDrop, hQueryAll, String.ofList_toList]
    rfl

theorem splitScheme_web (h : u.IsWeb) (rest : List Char) :
    splitScheme (u.scheme.toList ++ ':' :: '/' :: '/' :: rest) = some (u.scheme.toList, rest) := by
  obtain h | h := h
  · rw [h]
    rfl
  · rw [h]
    rfl

theorem targetScheme_web (h : u.IsWeb) :
    targetScheme u.scheme.toList = u.scheme ∧ u.scheme.toList.length ≤ maxSchemeLength := by
  obtain h | h := h
  · rw [h]
    decide
  · rw [h]
    decide

/-- A URL of the web is read as a target with a scheme, if it is short enough to be read. -/
theorem parse_text_absolute (h : u.IsWeb) (hFits : u.text.utf8ByteSize ≤ maxTargetLength) {behind : List Char}
    (hText : u.text.toList = u.scheme.toList ++ ':' :: '/' :: '/' :: behind) :
    Target.parse u.text = absoluteTarget u.scheme.toList behind := by
  have hHead : ∃ more, u.text.toList = 'h' :: more := by
    obtain hScheme | hScheme := h
    · exact ⟨_, by rw [hText, hScheme]; rfl⟩
    · exact ⟨_, by rw [hText, hScheme]; rfl⟩
  obtain ⟨more, hHead⟩ := hHead
  have hSplit := splitScheme_web h behind
  rw [← hText, hHead] at hSplit
  rw [Target.parse, if_neg (Nat.not_lt.2 hFits), hHead]
  split
  · rename_i hNil
    cases hNil
  · rename_i hStar
    cases hStar
  · rename_i hSlash
    cases hSlash
  · rw [hSplit]

/-- Behind the scheme a URL is read as an authority and what follows it. -/
theorem parse_text_eq (h : u.Canonical toAscii) (hFits : u.text.utf8ByteSize ≤ maxTargetLength) {a : Authority}
    (hAuthority : u.authority = some a) (ha : a.Canonical toAscii u.scheme) : Target.parse u.text =
      (checkAuthority a.text.toList).map fun _ => ⟨some u.scheme, some a.text, u.path.text, u.query⟩ := by
  have hInside : ∀ c ∈ a.text.toList, (!endsTargetAuthority c) = true := by
    intro c hc
    have hNot := ha.not_ends_of_mem hc
    rw [Url.endsAuthority, Url.isSlash, Bool.or_eq_false_iff, Bool.or_eq_false_iff, Bool.or_eq_false_iff] at hNot
    rw [endsTargetAuthority, hNot.1.1.1, hNot.1.2, hNot.2]
    rfl
  have hSpan := span_append hInside u.rest fun c hc => by
    rw [h.rest_head hc]
    rfl
  have hFilled : (a.text.toList ++ u.rest).isEmpty = false :=
    List.isEmpty_eq_false_iff.2 (List.append_ne_nil_of_left_ne_nil ha.text_ne_nil _)
  rw [parse_text_absolute h.web hFits (Url.toList_text hAuthority), absoluteTarget,
    if_neg (Nat.not_lt.2 (targetScheme_web h.web).2), hFilled, if_neg Bool.false_ne_true, hSpan.1, hSpan.2,
    pathAndQuery_rest h, (targetScheme_web h.web).1]
  dsimp only
  rw [List.isEmpty_eq_false_iff.2 ha.text_ne_nil, String.ofList_toList]
  cases checkAuthority a.text.toList <;> rfl

end Whole

end BearerTokens.Http
