import StrictTransport.Proofs.Check.Outage
import StrictTransport.Proofs.Policy.Identity

namespace StrictTransport.Check

open Policy Text

-- An extended document tells its policy under the domain it was fetched for, with its fetch
-- time. The token is told as well, unless the version of the policy brings an id of its own, or
-- the record's id was not found.
theorem reload_identity {σ : Type} (o : Outside σ) (options : Resolver.Options) (name : String)
    (w : World σ) (registrable : List String → Bool) (limits : Limits) (now : Int)
    (response? : Option Https.Response) (record : Record) (domain : String) (q : Policy)
    (hfound : (Record.find o options name w).1 = .ok record)
    (hnamed : record.domain = some domain) (hvalid : Domain.isValid registrable domain = true)
    (hnow : 0 < now) :
    let p := (ofResponse limits now response? (some record)).1
    (ofExtended registrable limits p.extended).1 = .ok q →
      q.fetchTime = p.fetchTime ∧ ∃ version restored told, p.version = some version ∧
        q.record = some restored ∧ restored.domain = some told ∧
        Domain.normalize told = Domain.normalize domain ∧
        (restored.sameGeneration p.record = true ↔
          (Record.versionGap record.id).all isWsp = true ∧
            ∀ id, Record.laterIdValue? version.toList = some id →
              String.ofList id = record.token) := by
  intro p hreload
  have hfind : Record.find o options name w = (.ok record, (Record.find o options name w).2) :=
    Prod.ext hfound rfl
  obtain ⟨text, parsed, w₁, hsearch, heq, hread, -⟩ := Record.find_eq_ok hfind
  have hid : record.id = text := by rw [heq]
  rw [← hid] at hread hsearch
  have hlegal : Domain.Legal (Domain.normalizeChars domain.toList) := by
    have hname := Domain.legal_of_isValid hvalid
    rwa [Domain.normalize, onString, String.toList_ofList] at hname
  exact (sourced_ofResponse hnow hnamed hlegal hread).reload
    (Record.tokenForm_of_parse hread (Record.announces_of_search hsearch)) hreload

-- A response whose document names a version.
def versioned (version : String) : Https.Response :=
  ⟨200, "OK", [], some (Utf8.encode
    s!"version: {version}\nmode: enforce\nmx: mail.example.com\nmax_age: 604800\n".toList), true,
    .present 0, false, none⟩

-- A version with an id of its own takes the place of the record's.
theorem versioned_reloaded :
    let record : Record := ⟨some "example.com", "v=STSv1; id=abc;"⟩
    let reloaded := fun version => (ofExtended (fun _ => true) .standard
      (ofResponse .standard 1700000000 (some (versioned version)) (some record)).1.extended).1
    (∃ q restored, reloaded "STSv1" = .ok q ∧ q.record = some restored ∧
      q.fetchTime = 1700000000 ∧ restored.sameGeneration (some record) = true) ∧
    ∃ q restored, reloaded "x; id=evil" = .ok q ∧ q.record = some restored ∧
      q.fetchTime = 1700000000 ∧ restored.sameGeneration (some record) = false := by
  intro record reloaded
  have hfound : (Record.find (answering (.ok ["v=STSv1; id=abc;"])) .standard "example.com"
      ⟨1700000000, .standard, []⟩).1 = .ok record := by
    decide +kernel
  have hidentity := fun response? q => reload_identity (answering (.ok ["v=STSv1; id=abc;"]))
    .standard "example.com" ⟨1700000000, .standard, []⟩ (fun _ => true) .standard 1700000000
    response? record "example.com" q hfound rfl (by decide +kernel) (by decide)
  have hreload : ∀ version, (reloaded version).toOption.isSome = true →
      ∃ q, reloaded version = .ok q := by
    intro version hsome
    cases hresult : reloaded version with
    | error e =>
        rw [hresult] at hsome
        cases hsome
    | ok q => exact ⟨q, rfl⟩
  constructor
  · obtain ⟨q, hq⟩ := hreload "STSv1" (by decide +kernel)
    obtain ⟨htime, version, restored, _, hversion, hrecord, -, -, hsame⟩ := hidentity _ q hq
    have hplain : (ofResponse .standard 1700000000 (some (versioned "STSv1"))
        (some record)).1.version = some "STSv1" := by
      decide +kernel
    obtain rfl := Option.some.inj (hversion.symm.trans hplain)
    refine ⟨q, restored, hq, hrecord, htime, hsame.mpr ⟨by decide, fun id hid => ?_⟩⟩
    have hnone : Record.laterIdValue? "STSv1".toList = none := by decide
    cases hnone.symm.trans hid
  · obtain ⟨q, hq⟩ := hreload "x; id=evil" (by decide +kernel)
    obtain ⟨htime, version, restored, _, hversion, hrecord, -, -, hsame⟩ := hidentity _ q hq
    have hinjected : (ofResponse .standard 1700000000 (some (versioned "x; id=evil"))
        (some record)).1.version = some "x; id=evil" := by
      decide +kernel
    obtain rfl := Option.some.inj (hversion.symm.trans hinjected)
    refine ⟨q, restored, hq, hrecord, htime, ?_⟩
    rw [← Bool.not_eq_true]
    intro hequal
    have hevil := (hsame.mp hequal).2 "evil".toList (by decide +kernel)
    exact absurd hevil (by decide +kernel)

end StrictTransport.Check
