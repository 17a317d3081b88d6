import BearerTokens.Proofs.Service.Activation

/-!
# Grants written back as settings

What has been resolved is settled: written back as settings, a grant lacks nothing and resolves to itself. Nothing is left
to trim, the URL reads back, its scheme is still of the web, and the scopes have been checked.
-/

set_option autoImplicit false

namespace BearerTokens

open BearerTokens.Http BearerTokens.Text BearerTokens.Time

def Grant.settings (g : Grant) : Settings where
  clientId := some g.clientId
  clientSecret := some g.clientSecret
  tokenUrl := some g.tokenUrl.text
  scopes := some g.scopes.toList

/-- Blanks are not shown. -/
theorem not_isBlank_of_isShown {c : Char} (h : isShown c = true) : isBlank c = false := by
  have hBounds := isShown_iff.1 h
  have hNot := of_kind (k := isShown) (p := fun c => !isBlank c) (by decide) (by omega) h
  simpa using hNot

theorem Url.Canonical.trim_text {toAscii : ToAscii} {u : Url} (h : u.Canonical toAscii) : Text.trim u.text = u.text := by
  refine trim_eq_self ?_ ?_
  · intro c hc
    exact not_isBlank_of_isShown (h.isShown_of_mem (List.mem_of_mem_head? hc))
  · intro c hc
    exact not_isBlank_of_isShown (h.isShown_of_mem (List.mem_of_getLast? hc))

theorem Url.Canonical.text_ne_empty {toAscii : ToAscii} {u : Url} (h : u.Canonical toAscii) : u.text ≠ "" := by
  obtain ⟨a, hAuthority, -⟩ := h.authority
  intro hEmpty
  have hText := toList_text hAuthority
  rw [hEmpty] at hText
  exact List.append_ne_nil_of_right_ne_nil _ (List.cons_ne_nil _ _) hText.symm

namespace Settings

variable {toAscii : ToAscii}

/-- What becomes of a grant that settings resolve to, once it is written back. -/
structure Idempotent (toAscii : ToAscii) (s : Settings) (g : Grant) : Prop where
  complete : g.settings.isComplete = true
  resolves : g.settings.resolve toAscii = .ok g
  form : (g.settings.resolve toAscii).map Grant.form = .ok g.form
  request : (g.settings.resolve toAscii).bind Grant.request = g.request
  service : ∀ classify clock,
    Service.ofSettings g.settings classify clock toAscii = Service.ofSettings s classify clock toAscii

theorem Given.settings_given {s : Settings} {clientId tokenUrl : String} {clientSecret : Secret} {url : Url}
    (h : s.Given clientId clientSecret tokenUrl) (hUrl : url.Canonical toAscii) (scopes : Scopes) :
    (Grant.settings ⟨trim clientId, clientSecret, url, scopes⟩).Given (trim clientId) clientSecret url.text where
  clientId := rfl
  clientSecret := rfl
  tokenUrl := rfl
  full r hLacks := by
    cases r with
    | clientId =>
      have hBlank := trim_eq_empty_iff.2 (hLacks _ rfl)
      rw [trim_trim] at hBlank
      exact h.trim_ne_empty hBlank
    | clientSecret =>
      refine h.full .clientSecret fun text hText => hLacks text ?_
      rwa [get?, h.clientSecret] at hText
    | tokenUrl =>
      have hBlank := trim_eq_empty_iff.2 (hLacks _ rfl)
      rw [hUrl.trim_text] at hBlank
      exact hUrl.text_ne_empty hBlank

theorem resolve_settings (hLaws : toAscii.Lawful) {s : Settings} {g : Grant} (h : s.resolve toAscii = .ok g) :
    g.settings.resolve toAscii = .ok g := by
  cases resolve_eq_iff.1 h with
  | @grant clientId tokenUrl clientSecret url scopes hGiven hRead hWeb hListed =>
    have hUrl := Url.parse_canonical hLaws hRead hWeb
    have hAgain : Url.parse (trim url.text) toAscii = .ok url := by
      rw [hUrl.trim_text, hUrl.parse_text hLaws]
    have hGrant := Resolves.grant (hGiven.settings_given hUrl scopes) hAgain hWeb rfl
    rw [trim_trim] at hGrant
    exact hGrant.resolve_eq

theorem missing_of_resolve {s : Settings} {g : Grant} (h : s.resolve toAscii = .ok g) : s.missing = [] := by
  cases hMissing : s.missing with
  | nil => rfl
  | cons r rest =>
    unfold resolve at h
    rw [hMissing] at h
    cases h

theorem ofSettings_of_resolve {s : Settings} {g : Grant} (h : s.resolve toAscii = .ok g) (classify : Classifier)
    (clock : Clock) : Service.ofSettings s classify clock toAscii = .ok (.ofCache (.new g classify clock)) := by
  rw [ofSettings_of_full (missing_eq_nil_iff.1 (missing_of_resolve h)), h]
  rfl

/-- To resolve twice is to resolve once. -/
theorem resolve_idempotent (hLaws : toAscii.Lawful) {s : Settings} {g : Grant} (h : s.resolve toAscii = .ok g) :
    s.Idempotent toAscii g where
  complete := by
    rw [isComplete, missing_of_resolve (resolve_settings hLaws h)]
    rfl
  resolves := resolve_settings hLaws h
  form := by
    rw [resolve_settings hLaws h]
    rfl
  request := by
    rw [resolve_settings hLaws h]
    rfl
  service classify clock := by
    rw [ofSettings_of_resolve (resolve_settings hLaws h), ofSettings_of_resolve h]

def looseSettings : Settings where
  clientId := some "\tsvc "
  clientSecret := some ⟨" s3cret "⟩
  tokenUrl := some "\u2003HTTPS://us er:p:w@B\u00FCcher.Example:443/a/./b/../c d?q='x y'#to p\n"
  scopes := some ["read", "write"]

theorem resolve_idempotent_loose : ToAscii.sample.Lawful ∧
    ∃ g, looseSettings.resolve .sample = .ok g ∧ looseSettings.Idempotent .sample g := by
  have hResolve : looseSettings.resolve .sample = .ok
      { clientId := "svc"
        clientSecret := ⟨" s3cret "⟩
        tokenUrl := ⟨"https", some ⟨"us%20er", some "p%3Aw", .domain "xn--bcher-kva.example", none⟩, .segments ["a", "c%20d"],
          some "q=%27x%20y%27", some "to%20p"⟩
        scopes := ⟨["read", "write"], by decide⟩ } := by
    decide +kernel
  exact ⟨ToAscii.sample_lawful, _, hResolve, resolve_idempotent ToAscii.sample_lawful hResolve⟩

end Settings

end BearerTokens
