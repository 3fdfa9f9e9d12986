import InstanceScripts.Proofs.Url.Authority
import InstanceScripts.Script.Origin

/-!
# Where tokens may go

A script that is fetched with the token has a URL that spells out a host of Cloud
Storage.  However the rest of the text looks, the URL that is read from it has that host,
the default port and no user name.
-/

namespace InstanceScripts
namespace Script
namespace Origin

open Url (isSettled)

/-! ## Taking URLs apart -/

theorem after?_eq_some {front chars rest : List Char} (found : after? front chars = some rest) :
    chars = front ++ rest := by
  induction front generalizing chars with
  | nil =>
      cases found
      rfl
  | cons wanted front inductionHypothesis =>
      cases chars with
      | nil => cases found
      | cons char chars =>
          unfold after? at found
          split at found
          · next same => rw [same, inductionHypothesis found, List.cons_append]
          · cases found

theorem atSlash?_eq_some {chars before behind : List Char}
    (found : atSlash? chars = some (before, behind)) : chars = before ++ '/' :: behind := by
  induction chars generalizing before with
  | nil => cases found
  | cons char chars inductionHypothesis =>
      unfold atSlash? at found
      split at found
      · next slash =>
          cases found
          rw [slash, List.nil_append]
      · obtain ⟨⟨front, rest⟩, later, same⟩ := Option.map_eq_some_iff.mp found
        cases same
        rw [inductionHypothesis later, List.cons_append]

theorem hostBucket?_eq_some {host bucket : List Char} (found : hostBucket? host = some bucket) :
    host = bucket ++ '.' :: storageHost := by
  obtain ⟨reversed, behind, rfl⟩ := Option.map_eq_some_iff.mp found
  have spelled := congrArg List.reverse (after?_eq_some behind)
  simpa using spelled

theorem behindScheme?_eq_some {chars rest : List Char} (found : behindScheme? chars = some rest) :
    ∃ scheme, (scheme = "http".toList ∨ scheme = "https".toList) ∧
      chars = scheme ++ "://".toList ++ rest := by
  rcases Option.or_eq_some_iff.mp found with plain | ⟨_, secure⟩
  · exact ⟨_, .inl rfl, after?_eq_some plain⟩
  · exact ⟨_, .inr rfl, after?_eq_some secure⟩

/-- A slash behind the scheme separates a host from the rest. -/
theorem hostAndRest_eq_some {chars host rest : List Char}
    (found : (behindScheme? chars).bind atSlash? = some (host, rest)) :
    ∃ scheme, (scheme = "http".toList ∨ scheme = "https".toList) ∧
      chars = scheme ++ "://".toList ++ (host ++ '/' :: rest) := by
  obtain ⟨behind, schemed, slashed⟩ := Option.bind_eq_some_iff.mp found
  obtain ⟨scheme, web, rfl⟩ := behindScheme?_eq_some schemed
  rw [atSlash?_eq_some slashed]
  exact ⟨scheme, web, rfl⟩

/-! ## Hosts of Cloud Storage -/

/-- A host of Cloud Storage, or one below it that names a bucket. -/
inductive IsStorageHost : List Char → Prop
  | shared : IsStorageHost storageHost
  | commonData : IsStorageHost commonDataHost
  | bucket (name : List Char) (named : isBucket name = true) :
      IsStorageHost (name ++ '.' :: storageHost)

theorem isBucket_settled {name : List Char} (named : isBucket name = true) :
    ∀ char ∈ name, isSettled char = true := by
  simp only [isBucket, Bool.and_eq_true] at named
  exact List.all_eq_true.mp named.2

theorem IsStorageHost.settled {host : List Char} (storage : IsStorageHost host) :
    ∀ char ∈ host, isSettled char = true := by
  cases storage with
  | shared => exact List.all_eq_true.mp rfl
  | commonData => exact List.all_eq_true.mp rfl
  | bucket name named =>
      intro char member
      rcases List.mem_append.mp member with inside | suffix
      · exact isBucket_settled named char inside
      · have all : ('.' :: storageHost).all isSettled = true := by decide
        exact List.all_eq_true.mp all char suffix

/-- Every such host belongs to one top-level domain. -/
theorem IsStorageHost.topLevel {host : List Char} (storage : IsStorageHost host) :
    ∃ before, host = before ++ '.' :: "com".toList := by
  cases storage with
  | shared => exact ⟨"storage.googleapis".toList, by decide⟩
  | commonData => exact ⟨"commondatastorage.googleapis".toList, by decide⟩
  | bucket name =>
      have shared : '.' :: storageHost = ".storage.googleapis".toList ++ '.' :: "com".toList := by
        decide
      exact ⟨name ++ ".storage.googleapis".toList, by rw [shared, List.append_assoc]⟩

/-! ## Scripts that are fetched with a token -/

/-- The text of a URL that is fetched with a token spells out its host. -/
theorem classify_storage {text target : String} (storage : classify text = .storage target) :
    ∃ scheme host rest, (scheme = "http".toList ∨ scheme = "https".toList) ∧
      IsStorageHost host ∧
      target.toList = scheme ++ "://".toList ++ (host ++ '/' :: rest) := by
  unfold classify at storage
  cases object : after? "gs://".toList text.toList with
  | some rest =>
      simp only [object, Origin.storage.injEq] at storage
      refine ⟨"https".toList, storageHost, rest, .inr rfl, .shared, ?_⟩
      rw [← storage, String.toList_ofList]
      rfl
  | none =>
      simp only [object] at storage
      split at storage
      · next accepted =>
          cases storage
          rcases Bool.or_eq_true_iff.mp accepted with hosted | pathed
          · unfold isVirtualHosted at hosted
            split at hosted
            · next host object found =>
                simp only [Bool.and_eq_true, Option.any_eq_true] at hosted
                obtain ⟨⟨name, spelled, named⟩, _⟩ := hosted
                obtain rfl := hostBucket?_eq_some spelled
                obtain ⟨scheme, web, shown⟩ := hostAndRest_eq_some found
                exact ⟨scheme, _, object, web, .bucket name named, shown⟩
            · contradiction
          · unfold isPathStyle at pathed
            split at pathed
            · next host path found =>
                simp only [Bool.and_eq_true, Bool.or_eq_true, beq_iff_eq] at pathed
                obtain ⟨scheme, web, shown⟩ := hostAndRest_eq_some found
                rcases pathed.1 with rfl | rfl
                · exact ⟨scheme, _, path, web, .shared, shown⟩
                · exact ⟨scheme, _, path, web, .commonData, shown⟩
            · contradiction
      · cases storage

/-- A URL for which a token is presented leads to Cloud Storage. -/
structure LeadsToStorage (url : Url) : Prop where
  web : url.scheme = "http".toList ∨ url.scheme = "https".toList
  host : ∃ host, IsStorageHost host ∧ url.host? = some (.domain host)
  defaultPort : url.effectivePort? = Url.defaultPort? url.scheme
  anonymous : url.hasUserinfo = false

/-- Whatever stands behind the host, a text that is fetched with a token is the URL of
something in Cloud Storage, if it is a URL at all. -/
theorem leadsToStorage_of_parse {text target : String} {url : Url}
    (storage : classify text = .storage target) (parsed : Url.parse target = .ok url) :
    LeadsToStorage url := by
  obtain ⟨scheme, host, rest, web, storageHost, spelled⟩ := classify_storage storage
  obtain ⟨before, rfl⟩ := storageHost.topLevel
  rw [← String.ofList_toList (s := target)] at parsed
  obtain ⟨rfl, authority⟩ :=
    Url.parse_settled web storageHost.settled (by decide) (by decide) (by decide) spelled parsed
  exact
    { web := web
      host := ⟨_, storageHost, by simp [Url.host?, authority]⟩
      defaultPort := by simp [Url.effectivePort?, authority]
      anonymous := by simp [Url.hasUserinfo, authority] }

end Origin
end Script
end InstanceScripts
