import BearerTokens.Proofs.KeySetCache.Operations
import BearerTokens.Proofs.Url.Canonical

/-!
# Addresses of key sets

The key set beside a token endpoint lies at the origin of the endpoint, behind the credentials that its URL has. Nothing
else of that URL is in the address, so URLs that agree in both share a lane of a cache, and other URLs do not.
-/

set_option autoImplicit false

namespace BearerTokens.Url

def userinfo (u : Url) : String :=
  (u.authority.map Authority.userinfo).getD ""

variable {toAscii : ToAscii} {u v : Url}

theorem toList_origin {a : Authority} (hAuthority : u.authority = some a) :
    u.origin.toList = u.scheme.toList ++ ':' :: '/' :: '/' :: a.place := by
  have hSlashes : "://".toList = [':', '/', '/'] := rfl
  rw [origin, hAuthority, Authority.place]
  dsimp only
  cases a.port with
  | none => simp [hSlashes]
  | some port => simp [hSlashes]

@[simp] theorem origin_keySetUrl (u : Url) : u.keySetUrl.origin = u.origin := rfl

@[simp] theorem userinfo_keySetUrl (u : Url) : u.keySetUrl.userinfo = u.userinfo := rfl

theorem Canonical.path_keySetUrl (h : u.Canonical toAscii) :
    u.keySetUrl.path = .segments [".well-known", "jwks.json"] := by
  obtain ⟨a, hAuthority, -⟩ := h.authority
  obtain ⟨items, hPath, -⟩ := h.path
  have hDot : u.needsDot = false := by rw [needsDot, hAuthority]
  rw [keySetUrl, hPath]
  dsimp only
  rw [hDot, if_neg Bool.false_ne_true, List.nil_append]

theorem isPath_wellKnown : IsPath [".well-known", "jwks.json"] := by
  refine ⟨fun item hItem => ?_, List.cons_ne_nil _ _⟩
  obtain rfl | hItem := List.mem_cons.1 hItem
  · exact isSegment_of_all (by decide) (by decide) (by decide)
  · obtain rfl := List.mem_singleton.1 hItem
    exact isSegment_of_all (by decide) (by decide) (by decide)

theorem Canonical.keySetUrl (h : u.Canonical toAscii) : u.keySetUrl.Canonical toAscii where
  web := h.web
  authority := h.authority
  path := ⟨_, h.path_keySetUrl, isPath_wellKnown⟩
  query := fun _ hQuery => nomatch hQuery
  fragment := fun _ hFragment => nomatch hFragment

theorem Canonical.toList_text_keySetUrl (h : u.Canonical toAscii) {a : Authority} (hAuthority : u.authority = some a) :
    u.keySetUrl.text.toList =
      u.scheme.toList ++ ':' :: '/' :: '/' :: (a.userinfo.toList ++ (a.place ++ keySetPath.toList)) := by
  have hText : u.keySetUrl.text.toList =
      u.scheme.toList ++ ':' :: '/' :: '/' :: (a.text.toList ++ u.keySetUrl.rest) := toList_text hAuthority
  have hRest : u.keySetUrl.rest = keySetPath.toList := by
    rw [rest, h.path_keySetUrl]
    rfl
  rw [hText, hRest, Authority.toList_text, List.append_assoc]

theorem Canonical.keySetUrl_keySetUrl (h : u.Canonical toAscii) : u.keySetUrl.keySetUrl = u.keySetUrl := by
  have hPath := h.keySetUrl.path_keySetUrl
  rw [← h.path_keySetUrl] at hPath
  exact congrArg (fun path => { u.keySetUrl with path := path }) hPath

theorem eq_of_toList_origin {a b : Authority} (hu : u.IsWeb) (hv : v.IsWeb) (ha : u.authority = some a)
    (hb : v.authority = some b) (hOrigin : u.origin = v.origin) : u.scheme = v.scheme ∧ a.place = b.place := by
  have hText := congrArg String.toList hOrigin
  rw [toList_origin ha, toList_origin hb] at hText
  have hRead := scheme?_web hu ('/' :: '/' :: a.place)
  rw [hText, scheme?_web hv ('/' :: '/' :: b.place)] at hRead
  obtain ⟨hScheme, hRest⟩ := Prod.mk.inj (Option.some.inj hRead)
  exact ⟨hScheme.symm, (List.cons.inj (List.cons.inj hRest).2).2.symm⟩

theorem Canonical.keySetUrl_eq_iff (hLaws : toAscii.Lawful) (hu : u.Canonical toAscii) (hv : v.Canonical toAscii) :
    u.keySetUrl = v.keySetUrl ↔ u.origin = v.origin ∧ u.userinfo = v.userinfo := by
  constructor
  · intro hSame
    rw [← origin_keySetUrl u, ← userinfo_keySetUrl u, hSame]
    exact ⟨rfl, rfl⟩
  · rintro ⟨hOrigin, hUserinfo⟩
    obtain ⟨a, ha, -⟩ := hu.authority
    obtain ⟨b, hb, -⟩ := hv.authority
    obtain ⟨hScheme, hPlace⟩ := eq_of_toList_origin hu.web hv.web ha hb hOrigin
    have hCredentials : a.userinfo = b.userinfo := by
      rwa [userinfo, userinfo, ha, hb] at hUserinfo
    -- no two addresses have one text, so the parts of the authorities need not be told apart
    have hText : u.keySetUrl.text = v.keySetUrl.text := by
      refine String.toList_injective ?_
      rw [hu.toList_text_keySetUrl ha, hv.toList_text_keySetUrl hb, hScheme, hPlace, hCredentials]
    have hRead := hu.keySetUrl.parse_text hLaws
    rw [hText, hv.keySetUrl.parse_text hLaws] at hRead
    exact (Except.ok.inj hRead).symm

/-- What the addresses of key sets beside the endpoints at `u` and `v` depend on. -/
structure SiteAlone (toAscii : ToAscii) (u v : Url) : Prop where
  /-- The credentials stand between the scheme and the rest of the origin, and the well-known path stands behind it. -/
  written : ∃ place, u.origin = u.scheme ++ "://" ++ place ∧
    u.keySetUrl.text = u.scheme ++ "://" ++ u.userinfo ++ place ++ keySetPath
  /-- Without credentials, and only then, the origin is all that is before that path. -/
  plain : u.keySetUrl.text = u.origin ++ keySetPath ↔ u.userinfo = ""
  read : parse u.keySetUrl.text toAscii = .ok u.keySetUrl
  again : u.keySetUrl.keySetUrl = u.keySetUrl
  /-- Path, query and fragment make no difference to an address. -/
  one : u.keySetUrl = v.keySetUrl ↔ u.origin = v.origin ∧ u.userinfo = v.userinfo
  /-- In those cases, and in no others, what is done to the entry and the guards of one address in a cache is done to
  those of the other. -/
  lane : ∀ (c : KeySetCache) (ready : List Http.Reply)
    (act : KeySetCache.Surroundings → KeySetCache.Work → KeySetCache.Work),
    (c.within u.keySetUrl ready act).lane v.keySetUrl =
      if u.origin = v.origin ∧ u.userinfo = v.userinfo then
        (act (c.surroundings u.keySetUrl) ⟨c.lane u.keySetUrl, [], ready⟩).lane
      else c.lane v.keySetUrl

theorem Canonical.written_keySetUrl (h : u.Canonical toAscii) : ∃ place, u.origin = u.scheme ++ "://" ++ place ∧
    u.keySetUrl.text = u.scheme ++ "://" ++ u.userinfo ++ place ++ keySetPath := by
  obtain ⟨a, hAuthority, -⟩ := h.authority
  have hSlashes : "://".toList = [':', '/', '/'] := rfl
  refine ⟨String.ofList a.place, String.toList_injective ?_, String.toList_injective ?_⟩
  · rw [toList_origin hAuthority]
    simp [hSlashes]
  · rw [h.toList_text_keySetUrl hAuthority, userinfo, hAuthority]
    simp [hSlashes]

/-- The address of a key set depends on origin and credentials of the endpoint's URL, and on nothing else. -/
theorem keySetUrl_siteAlone (hLaws : toAscii.Lawful) {s t : String} (hu : parse s toAscii = .ok u)
    (hv : parse t toAscii = .ok v) (hWeb : u.IsWeb) (hWeb' : v.IsWeb) : SiteAlone toAscii u v := by
  have hCanonical := parse_canonical hLaws hu hWeb
  have hEq := hCanonical.keySetUrl_eq_iff hLaws (parse_canonical hLaws hv hWeb')
  refine ⟨hCanonical.written_keySetUrl, ?_, hCanonical.keySetUrl.parse_text hLaws, hCanonical.keySetUrl_keySetUrl,
    hEq, ?_⟩
  · obtain ⟨place, hOrigin, hText⟩ := hCanonical.written_keySetUrl
    rw [hText, hOrigin]
    constructor
    · intro hSame
      have hLength := congrArg String.length hSame
      simp only [String.length_append] at hLength
      exact String.length_eq_zero_iff.1 (by omega)
    · intro hNone
      rw [hNone, String.append_empty]
  · intro c ready act
    rw [KeySetCache.lane_within]
    exact if_congr (eq_comm.trans hEq) rfl rfl

/-- Two endpoints of one tenant, as one user. -/
theorem keySetUrl_siteAlone_user : ToAscii.plain.Lawful ∧ ∃ u v,
    parse "https://user@host:8443/token?t=1" .plain = .ok u ∧
    parse "HTTPS://user@HOST:8443/a/../b#f" .plain = .ok v ∧ u.IsWeb ∧ v.IsWeb ∧ u.keySetUrl = v.keySetUrl ∧
    SiteAlone .plain u v := by
  refine ⟨ToAscii.plain_lawful,
    ⟨"https", some ⟨"user", none, .domain "host", some 8443⟩, .segments ["token"], some "t=1", none⟩,
    ⟨"https", some ⟨"user", none, .domain "host", some 8443⟩, .segments ["b"], none, some "f"⟩,
    by decide +kernel, by decide +kernel, .inr rfl, .inr rfl, rfl, ?_⟩
  exact keySetUrl_siteAlone ToAscii.plain_lawful (s := "https://user@host:8443/token?t=1")
    (t := "HTTPS://user@HOST:8443/a/../b#f") (by decide +kernel) (by decide +kernel) (.inr rfl) (.inr rfl)

/-- The credentials show in the address. -/
theorem keySetUrl_not_origin_alone :
    ¬ ∀ (s : String) (u : Url), parse s .plain = .ok u → u.IsWeb → u.keySetUrl.text = u.origin ++ keySetPath := by
  intro hAll
  have hRead : parse "https://user@host/x" .plain =
      .ok ⟨"https", some ⟨"user", none, .domain "host", none⟩, .segments ["x"], none, none⟩ := by
    decide +kernel
  exact absurd (hAll _ _ hRead (.inr rfl)) (by decide +kernel)

end BearerTokens.Url
