import BearerTokens.Proofs.Grant.Body

/-!
# Grants with another secret

Settings that differ in the client secret alone resolve alike: to the same error, or to grants whose texts are the same
and whose requests differ in the value of one pair of the form.
-/

set_option autoImplicit false

namespace BearerTokens

open BearerTokens.Http BearerTokens.Text

def Settings.withSecret (s : Settings) (secret : Secret) : Settings :=
  { s with clientSecret := some secret }

def Grant.withSecret (g : Grant) (secret : Secret) : Grant :=
  { g with clientSecret := secret }

/-- The pair of a form, with that client secret if it is the one that carries it. -/
def resealPair (secret : Secret) (p : String × String) : String × String :=
  if p.1 = "client_secret" then (p.1, secret.expose) else p

def Http.Request.withSecret (r : Request) (secret : Secret) : Request :=
  { r with body := Form.encode ((Form.decode r.body).map (resealPair secret)) }

def Secret.IsFilled (s : Secret) : Prop :=
  Settings.isBlank (some s.expose) = false

instance Secret.decidableIsFilled (s : Secret) : Decidable s.IsFilled :=
  inferInstanceAs (Decidable (Settings.isBlank (some s.expose) = false))

theorem Secret.IsFilled.isEmpty {s : Secret} (h : s.IsFilled) : s.isEmpty = false := by
  refine Bool.eq_false_iff.2 fun hEmpty => ?_
  rw [Secret.isEmpty, String.isEmpty_iff] at hEmpty
  rw [Secret.IsFilled, hEmpty] at h
  cases h

variable {a b : Secret}

namespace Grant

theorem inspect_withSecret (g : Grant) (secret : Secret) : (g.withSecret secret).inspect = g.inspect := rfl

theorem pairs_withSecret (g : Grant) (secret : Secret) :
    (g.withSecret secret).pairs = g.pairs.map (resealPair secret) := by
  have hScope : (g.scopes.requestValue?.map fun scope => ("scope", scope)).toList.map (resealPair secret) =
      (g.scopes.requestValue?.map fun scope => ("scope", scope)).toList := by
    cases g.scopes.requestValue? <;> rfl
  rw [pairs, pairs, List.map_append, hScope]
  rfl

theorem form_withSecret (g : Grant) (secret : Secret) :
    (g.withSecret secret).form = Form.encode ((Form.decode g.form).map (resealPair secret)) := by
  rw [form, pairs_withSecret, decode_form]

theorem request_withSecret (g : Grant) (secret : Secret) :
    (g.withSecret secret).request = g.request.map (·.withSecret secret) := by
  unfold request
  rw [form_withSecret]
  cases hTarget : Target.parse g.tokenUrl.text <;> simp [withSecret, hTarget, Except.map, Request.withSecret]

theorem make_withSecret (hA : a.IsFilled) (hB : b.IsFilled) (clientId : String) (url : Url) (scopes : List String) :
    make clientId b url scopes = (make clientId a url scopes).map (·.withSecret b) := by
  unfold make
  -- no check looks at the secret any further
  rw [hA.isEmpty, hB.isEmpty]
  simp only [Bool.false_eq_true, if_false]
  split
  · rfl
  · split
    · rfl
    · cases Scopes.ofList scopes <;> rfl

end Grant

namespace Settings

theorem inspect_withSecret (s : Settings) (a b : Secret) : (s.withSecret a).inspect = (s.withSecret b).inspect := rfl

theorem missing_withSecret (s : Settings) (hA : a.IsFilled) (hB : b.IsFilled) :
    (s.withSecret a).missing = (s.withSecret b).missing := by
  refine List.filter_congr fun r _ => ?_
  cases r with
  | clientSecret => exact hA.trans hB.symm
  | clientId | tokenUrl => rfl

theorem resolve_withSecret (s : Settings) (hA : a.IsFilled) (hB : b.IsFilled) (toAscii : ToAscii) :
    (s.withSecret b).resolve toAscii = ((s.withSecret a).resolve toAscii).map (·.withSecret b) := by
  unfold resolve
  rw [s.missing_withSecret hB hA]
  cases (s.withSecret a).missing with
  | cons r rs => rfl
  | nil =>
    obtain ⟨clientId, -, tokenUrl, scopes⟩ := s
    cases clientId with
    | none => rfl
    | some clientId =>
      cases tokenUrl with
      | none => rfl
      | some tokenUrl =>
        simp only [withSecret]
        cases Url.parse (trim tokenUrl) toAscii with
        | error e => rfl
        | ok url => exact Grant.make_withSecret hA hB _ _ _

end Settings

end BearerTokens
