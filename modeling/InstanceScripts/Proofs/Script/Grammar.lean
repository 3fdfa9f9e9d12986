import InstanceScripts.Proofs.Script.Origin
import InstanceScripts.Proofs.Script.Pattern

/-!
# How URLs are told apart

The text up to the first slash behind the scheme decides which form a URL may have.  No text has
two forms, so it does not matter in which order they are tried.
-/

namespace InstanceScripts
namespace Script
namespace Origin

/-! ## Names -/

theorem isBucketEnd_iff {char : Char} : isBucketEnd char = true ↔ IsLetterOrDigit char := by
  simp [isBucketEnd, IsLetterOrDigit]

theorem isBucketChar_iff {char : Char} :
    isBucketChar char = true ↔
      IsLetterOrDigit char ∨ char = '-' ∨ char = '_' ∨ char = '.' := by
  simp [isBucketChar, isBucketEnd_iff, or_assoc]

theorem isBucket_iff {name : List Char} : isBucket name = true ↔ BucketWord name := by
  simp only [isBucket, Bool.and_eq_true, Option.any_eq_true, List.all_eq_true, isBucketEnd_iff,
    isBucketChar_iff]
  constructor
  · rintro ⟨⟨⟨first, head, begins⟩, last, tail, ends⟩, inside⟩
    refine ⟨?_, ?_, ?_, inside⟩
    · rintro rfl
      cases head
    · intro char found
      rw [head] at found
      cases found
      exact begins
    · intro char found
      rw [tail] at found
      cases found
      exact ends
  · intro word
    refine ⟨⟨?_, ?_⟩, word.inside⟩
    · exact ⟨name.head word.nonempty, List.head?_eq_some_head _,
        word.begins _ (List.head?_eq_some_head _)⟩
    · exact ⟨name.getLast word.nonempty, List.getLast?_eq_some_getLast _,
        word.ends _ (List.getLast?_eq_some_getLast _)⟩

theorem isObject_iff {name : List Char} : isObject name = true ↔ ObjectWord name := by
  simp only [isObject, Bool.and_eq_true, List.all_eq_true, Bool.not_eq_true',
    List.isEmpty_eq_false_iff, bne_iff_ne]
  constructor
  · rintro ⟨nonempty, literal⟩
    exact ⟨nonempty, literal⟩
  · rintro ⟨nonempty, literal⟩
    exact ⟨nonempty, literal⟩

/-! ## Putting URLs together -/

theorem after?_append (front rest : List Char) : after? front (front ++ rest) = some rest := by
  induction front with
  | nil => rfl
  | cons char front inductionHypothesis =>
      rw [List.cons_append, after?, if_pos rfl]
      exact inductionHypothesis

theorem after?_eq_some_iff {front chars rest : List Char} :
    after? front chars = some rest ↔ chars = front ++ rest := by
  constructor
  · exact after?_eq_some
  · rintro rfl
    exact after?_append front rest

theorem atSlash?_append {before : List Char} (slashless : '/' ∉ before) (behind : List Char) :
    atSlash? (before ++ '/' :: behind) = some (before, behind) := by
  induction before with
  | nil => rfl
  | cons char before inductionHypothesis =>
      rw [List.mem_cons, not_or] at slashless
      rw [List.cons_append, atSlash?, if_neg (Ne.symm slashless.1),
        inductionHypothesis slashless.2]
      rfl

theorem atSlash?_slashless {chars before behind : List Char}
    (found : atSlash? chars = some (before, behind)) : '/' ∉ before := by
  induction chars generalizing before with
  | nil => cases found
  | cons char chars inductionHypothesis =>
      unfold atSlash? at found
      split at found
      · cases found
        exact List.not_mem_nil
      · next other =>
          obtain ⟨⟨front, rest⟩, later, same⟩ := Option.map_eq_some_iff.mp found
          cases same
          rw [List.mem_cons, not_or]
          exact ⟨Ne.symm other, inductionHypothesis later⟩

/-- A text is split at its first slash. -/
theorem atSlash?_eq_some_iff {chars before behind : List Char} :
    atSlash? chars = some (before, behind) ↔
      chars = before ++ '/' :: behind ∧ '/' ∉ before := by
  constructor
  · intro found
    exact ⟨atSlash?_eq_some found, atSlash?_slashless found⟩
  · rintro ⟨rfl, slashless⟩
    exact atSlash?_append slashless behind

theorem hostBucket?_eq_some_iff {host bucket : List Char} :
    hostBucket? host = some bucket ↔ host = bucket ++ '.' :: storageHost := by
  constructor
  · exact hostBucket?_eq_some
  · rintro rfl
    unfold hostBucket?
    rw [List.reverse_append, after?_append, Option.map_some, List.reverse_reverse]

theorem behindScheme?_eq_some_iff {chars rest : List Char} :
    behindScheme? chars = some rest ↔ ∃ front, WebWord front ∧ chars = front ++ rest := by
  unfold behindScheme?
  rw [Option.or_eq_some_iff, after?_eq_some_iff, after?_eq_some_iff]
  constructor
  · rintro (plain | ⟨_, secure⟩)
    · exact ⟨_, .inl rfl, plain⟩
    · exact ⟨_, .inr rfl, secure⟩
  · rintro ⟨front, rfl | rfl, spelled⟩
    · exact .inl spelled
    · refine .inr ⟨?_, spelled⟩
      rw [spelled]
      rfl

/-- Host and path of a web URL. -/
theorem hostAndRest_eq_some_iff {chars host rest : List Char} :
    (behindScheme? chars).bind atSlash? = some (host, rest) ↔
      '/' ∉ host ∧ ∃ front, WebWord front ∧ chars = front ++ (host ++ '/' :: rest) := by
  simp only [Option.bind_eq_some_iff, behindScheme?_eq_some_iff, atSlash?_eq_some_iff]
  constructor
  · rintro ⟨_, ⟨front, web, rfl⟩, rfl, slashless⟩
    exact ⟨slashless, front, web, rfl⟩
  · rintro ⟨slashless, front, web, rfl⟩
    exact ⟨_, ⟨front, web, rfl⟩, rfl, slashless⟩

/-! ## Forms -/

/-- What is fetched for a text of a form. -/
def Form.target? (form : Form) (url : String) : Option String :=
  match form with
  | .gsScheme =>
      (after? "gs://".toList url.toList).map fun rest => String.ofList (storageEndpoint ++ rest)
  | .virtualHosted => if isVirtualHosted url.toList then some url else none
  | .pathStyle => if isPathStyle url.toList then some url else none

/-- How the script at a URL is fetched when the forms are tried in some order. -/
def classifyBy (order : List Form) (url : String) : Origin :=
  match order.findSome? (·.target? url) with
  | some target => .storage target
  | none => .plain url

theorem IsStorageHost.slashless {host : List Char} (storage : IsStorageHost host) :
    '/' ∉ host := by
  intro member
  have settled := storage.settled '/' member
  contradiction

theorem BucketWord.slashless {bucket : List Char} (named : BucketWord bucket) :
    '/' ∉ bucket := by
  intro member
  have settled := isBucket_settled (isBucket_iff.mpr named) '/' member
  contradiction

/-- The host that all buckets share, with the slash behind it. -/
theorem storageHost_slash (rest : List Char) :
    storageHost ++ '/' :: rest = "storage.googleapis.com/".toList ++ rest := by
  have spelled : "storage.googleapis.com/".toList = storageHost ++ ['/'] := by decide
  rw [spelled, List.append_assoc, List.singleton_append]

/-- What follows the name of a bucket in a host of its own. -/
theorem dotStorageHost_slash (rest : List Char) :
    '.' :: storageHost ++ '/' :: rest = ".storage.googleapis.com/".toList ++ rest := by
  have spelled : ".storage.googleapis.com/".toList = '.' :: storageHost ++ ['/'] := by decide
  rw [spelled, List.append_assoc, List.singleton_append]

/-- A URL with a host below the one that all buckets share, taken apart. -/
theorem hostAndRest_below {front name : List Char} (web : WebWord front) (slashless : '/' ∉ name)
    (rest : List Char) :
    (behindScheme? (front ++ (name ++ (".storage.googleapis.com/".toList ++ rest)))).bind atSlash? =
      some (name ++ '.' :: storageHost, rest) := by
  have apart : '/' ∉ name ++ '.' :: storageHost := by
    rw [List.mem_append, not_or]
    exact ⟨slashless, by decide⟩
  refine hostAndRest_eq_some_iff.mpr ⟨apart, front, web, ?_⟩
  rw [List.append_assoc, dotStorageHost_slash]

/-- A URL with a host that all buckets share, taken apart. -/
theorem hostAndRest_shared {front commonData : List Char} (web : WebWord front)
    (shared : commonData = [] ∨ commonData = "commondata".toList) (rest : List Char) :
    (behindScheme? (front ++ (commonData ++ ("storage.googleapis.com/".toList ++ rest)))).bind
      atSlash? = some (commonData ++ storageHost, rest) := by
  have slashless : '/' ∉ commonData ++ storageHost := by
    rcases shared with rfl | rfl
    · exact IsStorageHost.shared.slashless
    · exact IsStorageHost.commonData.slashless
  refine hostAndRest_eq_some_iff.mpr ⟨slashless, front, web, ?_⟩
  rw [List.append_assoc, storageHost_slash]

/-- A URL whose host names the bucket, taken apart. -/
theorem Form.Spells.hostBucket {url : List Char} (spelled : Form.virtualHosted.Spells url) :
    ∃ bucket object,
      (behindScheme? url).bind atSlash? = some (bucket ++ '.' :: storageHost, object) ∧
        BucketWord bucket ∧ ObjectWord object := by
  cases spelled with
  | virtualHosted front bucket object web named held =>
      exact ⟨bucket, object, hostAndRest_below web named.slashless object, named, held⟩

/-- A URL whose path names the bucket, taken apart. -/
theorem Form.Spells.pathBucket {url : List Char} (spelled : Form.pathStyle.Spells url) :
    ∃ commonData bucket object,
      (commonData = [] ∨ commonData = "commondata".toList) ∧
        (behindScheme? url).bind atSlash? =
          some (commonData ++ storageHost, bucket ++ '/' :: object) ∧
        BucketWord bucket ∧ ObjectWord object := by
  cases spelled with
  | pathStyle front bucket object commonData web shared named held =>
      exact ⟨commonData, bucket, object, shared, hostAndRest_shared web shared _, named, held⟩

theorem isVirtualHosted_iff {url : List Char} :
    isVirtualHosted url = true ↔ Form.virtualHosted.Spells url := by
  unfold isVirtualHosted
  constructor
  · intro hosted
    split at hosted
    · next host object found =>
        simp only [Bool.and_eq_true, Option.any_eq_true, isBucket_iff, isObject_iff] at hosted
        obtain ⟨⟨bucket, spelled, named⟩, held⟩ := hosted
        obtain ⟨_, front, web, rfl⟩ := hostAndRest_eq_some_iff.mp found
        rw [hostBucket?_eq_some_iff.mp spelled, List.append_assoc, dotStorageHost_slash]
        exact .virtualHosted front bucket object web named held
    · contradiction
  · intro spelled
    obtain ⟨bucket, object, found, named, held⟩ := spelled.hostBucket
    rw [found]
    simp only [hostBucket?_eq_some_iff.mpr rfl, Option.any_some, isBucket_iff.mpr named,
      isObject_iff.mpr held, Bool.and_self]

/-- The two hosts that all buckets share. -/
theorem sharedHost_iff {host : List Char} :
    (host == storageHost || host == commonDataHost) = true ↔
      ∃ commonData, (commonData = [] ∨ commonData = "commondata".toList) ∧
        host = commonData ++ storageHost := by
  rw [Bool.or_eq_true, beq_iff_eq, beq_iff_eq]
  constructor
  · rintro (rfl | rfl)
    · exact ⟨[], .inl rfl, rfl⟩
    · exact ⟨_, .inr rfl, rfl⟩
  · rintro ⟨_, rfl | rfl, rfl⟩
    · exact .inl rfl
    · exact .inr rfl

theorem isPathStyle_iff {url : List Char} :
    isPathStyle url = true ↔ Form.pathStyle.Spells url := by
  unfold isPathStyle
  constructor
  · intro pathed
    split at pathed
    · next host path found =>
        rw [Bool.and_eq_true, sharedHost_iff, Option.any_eq_true] at pathed
        obtain ⟨⟨commonData, shared, rfl⟩, ⟨bucket, object⟩, split, accepted⟩ := pathed
        rw [Bool.and_eq_true, isBucket_iff, isObject_iff] at accepted
        obtain ⟨_, front, web, rfl⟩ := hostAndRest_eq_some_iff.mp found
        rw [atSlash?_eq_some split, List.append_assoc, storageHost_slash]
        exact .pathStyle front bucket object commonData web shared accepted.1 accepted.2
    · contradiction
  · intro spelled
    obtain ⟨commonData, bucket, object, shared, found, named, held⟩ := spelled.pathBucket
    have host := sharedHost_iff.mpr ⟨commonData, shared, rfl⟩
    rw [found]
    simp only [host, atSlash?_append named.slashless, Option.any_some, isBucket_iff.mpr named,
      isObject_iff.mpr held, Bool.and_self]

/-- A text has a form if and only if there is something to fetch for it. -/
theorem Form.spells_iff {form : Form} {url : String} :
    form.Spells url.toList ↔ ∃ target, form.target? url = some target := by
  cases form with
  | gsScheme =>
      simp only [Form.target?, Option.map_eq_some_iff, after?_eq_some_iff]
      constructor
      · generalize url.toList = chars
        rintro ⟨rest⟩
        exact ⟨_, rest, rfl, rfl⟩
      · rintro ⟨_, rest, spelled, _⟩
        rw [spelled]
        exact .gsScheme rest
  | virtualHosted => simp [Form.target?, ← isVirtualHosted_iff]
  | pathStyle => simp [Form.target?, ← isPathStyle_iff]

/-! ## One form at most -/

/-- A host that names a bucket is none of those that all buckets share. -/
theorem bucketHost_ne {bucket commonData : List Char}
    (shared : commonData = [] ∨ commonData = "commondata".toList) :
    bucket ++ '.' :: storageHost ≠ commonData ++ storageHost := by
  intro same
  have named := hostBucket?_eq_some_iff.mpr same.symm
  rcases shared with rfl | rfl
  · have none : hostBucket? ([] ++ storageHost) = none := by decide
    rw [none] at named
    cases named
  · have none : hostBucket? ("commondata".toList ++ storageHost) = none := by decide
    rw [none] at named
    cases named

/-- What follows `gs://` is no web URL. -/
theorem behindScheme?_gsScheme (rest : List Char) :
    behindScheme? ("gs://".toList ++ rest) = none := rfl

theorem Form.Spells.unique {form other : Form} {url : List Char} (spelled : form.Spells url)
    (again : other.Spells url) : form = other := by
  have notBoth (hosted : Form.virtualHosted.Spells url) (pathed : Form.pathStyle.Spells url) :
      False := by
    obtain ⟨bucket, _, found, _⟩ := hosted.hostBucket
    obtain ⟨commonData, _, _, shared, split, _⟩ := pathed.pathBucket
    rw [found] at split
    exact bucketHost_ne shared (Prod.mk.inj (Option.some.inj split)).1
  have notHosted (gs : Form.gsScheme.Spells url) : ¬Form.virtualHosted.Spells url := by
    intro hosted
    obtain ⟨_, _, found, _⟩ := hosted.hostBucket
    obtain ⟨rest⟩ := gs
    rw [behindScheme?_gsScheme] at found
    cases found
  have notPathed (gs : Form.gsScheme.Spells url) : ¬Form.pathStyle.Spells url := by
    intro pathed
    obtain ⟨_, _, _, _, found, _⟩ := pathed.pathBucket
    obtain ⟨rest⟩ := gs
    rw [behindScheme?_gsScheme] at found
    cases found
  cases form with
  | gsScheme =>
      cases other with
      | gsScheme => rfl
      | virtualHosted => exact absurd again (notHosted spelled)
      | pathStyle => exact absurd again (notPathed spelled)
  | virtualHosted =>
      cases other with
      | gsScheme => exact absurd spelled (notHosted again)
      | virtualHosted => rfl
      | pathStyle => exact absurd again (notBoth spelled)
  | pathStyle =>
      cases other with
      | gsScheme => exact absurd spelled (notPathed again)
      | virtualHosted => exact absurd spelled (notBoth again)
      | pathStyle => rfl

/-- Trying forms finds the one that a text has, wherever it stands among them. -/
theorem findSome?_target?_iff {order : List Form} {url target : String} :
    order.findSome? (·.target? url) = some target ↔
      ∃ form ∈ order, form.target? url = some target := by
  constructor
  · exact List.exists_of_findSome?_eq_some
  · rintro ⟨form, listed, found⟩
    obtain ⟨first, reached⟩ : ∃ first, order.findSome? (·.target? url) = some first := by
      rw [← Option.isSome_iff_exists, List.findSome?_isSome_iff]
      exact ⟨form, listed, by rw [found]; rfl⟩
    obtain ⟨other, _, foundFirst⟩ := List.exists_of_findSome?_eq_some reached
    obtain rfl : form = other :=
      (Form.spells_iff.mpr ⟨target, found⟩).unique (Form.spells_iff.mpr ⟨first, foundFirst⟩)
    rw [reached, ← foundFirst, found]

/-- The order of precedence. -/
def precedence : List Form :=
  [.gsScheme, .virtualHosted, .pathStyle]

theorem mem_precedence (form : Form) : form ∈ precedence := by
  cases form <;> simp [precedence]

theorem classify_eq_classifyBy (url : String) : classify url = classifyBy precedence url := by
  unfold classify classifyBy precedence
  rw [List.findSome?_cons, Form.target?]
  cases after? "gs://".toList url.toList with
  | some rest => rfl
  | none =>
      rw [Option.map_none, List.findSome?_cons, List.findSome?_cons, List.findSome?_nil]
      cases hosted : isVirtualHosted url.toList with
      | true => simp [Form.target?, hosted]
      | false =>
          cases pathed : isPathStyle url.toList with
          | true => simp [Form.target?, hosted, pathed]
          | false => simp [Form.target?, hosted, pathed]

/-- It does not matter in which order the forms are tried. -/
theorem classifyBy_eq {order : List Form} (complete : ∀ form, form ∈ order) (url : String) :
    classifyBy order url = classify url := by
  have same : order.findSome? (·.target? url) = precedence.findSome? (·.target? url) := by
    apply Option.ext
    intro target
    rw [findSome?_target?_iff, findSome?_target?_iff]
    simp only [complete, mem_precedence, true_and]
  rw [classify_eq_classifyBy, classifyBy, classifyBy, same]

/-! ## What is fetched with a token -/

/-- A text that begins with `gs://` is fetched from the endpoint of Cloud Storage, a text of
one of the other two forms as it is, and anything else without a token.  No text has two forms,
so they may be tried in any order, and each of them is what its pattern matches. -/
theorem classify_grammar (url : String) :
    (∀ rest, url = "gs://" ++ rest →
      classify url = .storage ("https://storage.googleapis.com/" ++ rest)) ∧
    ((∀ rest, url ≠ "gs://" ++ rest) →
      (classify url = .storage url ↔
        Form.virtualHosted.Spells url.toList ∨ Form.pathStyle.Spells url.toList) ∧
      (¬(Form.virtualHosted.Spells url.toList ∨ Form.pathStyle.Spells url.toList) ↔
        classify url = .plain url)) ∧
    (∀ form other : Form, form.Spells url.toList → other.Spells url.toList → form = other) ∧
    (∀ order : List Form, (∀ form, form ∈ order) → classifyBy order url = classify url) ∧
    ∀ form : Form, form.Spells url.toList ↔ url.toList ∈ form.pattern := by
  refine ⟨?_, ?_, fun _ _ => Form.Spells.unique, fun order complete => classifyBy_eq complete url,
    fun _ => Form.spells_iff_mem_pattern⟩
  · rintro rest rfl
    have marked : after? "gs://".toList ("gs://" ++ rest).toList = some rest.toList := by
      rw [String.toList_append, after?_append]
    have moved : String.ofList (storageEndpoint ++ rest.toList) =
        "https://storage.googleapis.com/" ++ rest := by
      apply String.toList_inj.mp
      rw [String.toList_ofList, String.toList_append]
      rfl
    rw [classify, marked]
    exact congrArg Origin.storage moved
  · intro other
    have unmarked : after? "gs://".toList url.toList = none := by
      rw [Option.eq_none_iff_forall_ne_some]
      intro rest found
      apply other (String.ofList rest)
      apply String.toList_inj.mp
      rw [after?_eq_some found, String.toList_append]
      exact congrArg ("gs://".toList ++ ·) String.toList_ofList.symm
    have decided : classify url =
        if isVirtualHosted url.toList || isPathStyle url.toList then .storage url
        else .plain url := by
      rw [classify, unmarked]
    rw [decided, ← isVirtualHosted_iff, ← isPathStyle_iff, ← Bool.or_eq_true]
    cases isVirtualHosted url.toList || isPathStyle url.toList with
    | true => simp
    | false => simp

end Origin
end Script
end InstanceScripts
