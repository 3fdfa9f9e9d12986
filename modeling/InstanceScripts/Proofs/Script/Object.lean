import InstanceScripts.Proofs.Script.Grammar

/-!
# Which objects are fetched

A URL that is fetched with a token is meant to name a bucket and an object in it.  A text of one
of the two web forms does so.  A text that begins with `gs://` does so only if it gives both
names, and is fetched with a token even if it does not.
-/

namespace InstanceScripts
namespace Script
namespace Origin

/-! ## Names of objects -/

/-- A path gives the name of a bucket and, behind a slash, that of an object. -/
def NamesBoth (path : List Char) : Prop :=
  ∃ bucket object, path = bucket ++ '/' :: object ∧ bucket ≠ [] ∧ '/' ∉ bucket ∧ object ≠ []

/-- A URL names an object in Cloud Storage.  Its bucket stands before the host that all buckets
share, or at the front of the path. -/
inductive NamesObject : List Char → Prop
  | inHost (front bucket object : List Char) (web : WebWord front) (named : bucket ≠ [])
      (slashless : '/' ∉ bucket) (held : object ≠ []) :
      NamesObject (front ++ (bucket ++ (".storage.googleapis.com/".toList ++ object)))
  | inPath (front commonData path : List Char) (web : WebWord front)
      (host : commonData = [] ∨ commonData = "commondata".toList) (both : NamesBoth path) :
      NamesObject (front ++ (commonData ++ ("storage.googleapis.com/".toList ++ path)))

/-- A text refers to an object: it has one of the two web forms, or gives the names of a bucket
and an object behind `gs://`. -/
def RefersToObject (url : List Char) : Prop :=
  (∃ rest, url = "gs://".toList ++ rest ∧ NamesBoth rest) ∨
    Form.virtualHosted.Spells url ∨ Form.pathStyle.Spells url

theorem BucketWord.namesBoth {bucket object : List Char} (named : BucketWord bucket)
    (held : ObjectWord object) : NamesBoth (bucket ++ '/' :: object) :=
  ⟨bucket, object, rfl, named.nonempty, named.slashless, held.nonempty⟩

/-- A text without a slash names no object. -/
theorem not_namesBoth_of_slashless {path : List Char} (slashless : '/' ∉ path) :
    ¬NamesBoth path := by
  rintro ⟨bucket, object, rfl, _⟩
  exact slashless (List.mem_append_right _ List.mem_cons_self)

/-- A text of one of the two web forms names an object. -/
theorem namesObject_of_web {url : List Char}
    (spelled : Form.virtualHosted.Spells url ∨ Form.pathStyle.Spells url) : NamesObject url := by
  rcases spelled with hosted | pathed
  · cases hosted with
    | virtualHosted front bucket object web named held =>
        exact .inHost front bucket object web named.nonempty named.slashless held.nonempty
  · cases pathed with
    | pathStyle front bucket object commonData web shared named held =>
        exact .inPath front commonData _ web shared (named.namesBoth held)

/-! ## The endpoint of Cloud Storage -/

/-- What stands behind the endpoint is a path on the host that all buckets share. -/
theorem storageEndpoint_append (rest : List Char) :
    storageEndpoint ++ rest =
      "https://".toList ++ ([] ++ ("storage.googleapis.com/".toList ++ rest)) := by
  have spelled : storageEndpoint =
      "https://".toList ++ "storage.googleapis.com/".toList := by decide
  rw [spelled, List.append_assoc, List.nil_append]

/-- Behind the endpoint, a URL names an object if and only if its path gives both names. -/
theorem namesObject_endpoint_iff {rest : List Char} :
    NamesObject (storageEndpoint ++ rest) ↔ NamesBoth rest := by
  constructor
  · intro named
    have found := hostAndRest_shared (.inr rfl) (.inl rfl) rest
    rw [← storageEndpoint_append] at found
    generalize storageEndpoint ++ rest = url at named found
    cases named with
    | inHost front bucket object web _ slashless held =>
        -- No host is both the shared one and one of a bucket's own.
        rw [hostAndRest_below web slashless] at found
        have same := (Prod.mk.inj (Option.some.inj found)).1
        exact absurd same (bucketHost_ne (.inl rfl))
    | inPath front commonData path web shared both =>
        rw [hostAndRest_shared web shared] at found
        rw [← (Prod.mk.inj (Option.some.inj found)).2]
        exact both
  · intro both
    rw [storageEndpoint_append]
    exact .inPath _ _ _ (.inr rfl) (.inl rfl) both

/-! ## What is fetched -/

/-- What is fetched with a token is what some form makes of a text. -/
theorem classify_eq_storage_iff {url target : String} :
    classify url = .storage target ↔ ∃ form : Form, form.target? url = some target := by
  have found := @findSome?_target?_iff precedence url target
  simp only [mem_precedence, true_and] at found
  rw [← found, classify_eq_classifyBy, classifyBy]
  cases precedence.findSome? (·.target? url) with
  | none => simp
  | some first => simp

/-- A text of no form is fetched without a token. -/
theorem classify_of_formless {url : String} (formless : ∀ form : Form, ¬form.Spells url.toList) :
    classify url = .plain url := by
  have none : precedence.findSome? (·.target? url) = none := by
    rw [List.findSome?_eq_none_iff]
    intro form _
    rw [Option.eq_none_iff_forall_ne_some]
    exact fun target found => formless form (Form.spells_iff.mpr ⟨target, found⟩)
  rw [classify_eq_classifyBy, classifyBy, none]

/-- A text of which the beginning is known. -/
theorem eq_append_ofList {text front : String} {rest : List Char}
    (spelled : text.toList = front.toList ++ rest) : text = front ++ String.ofList rest := by
  rw [← String.toList_inj, spelled, String.toList_append, String.toList_ofList]

/-- What follows `gs://` is fetched from the endpoint of Cloud Storage. -/
theorem target?_gsScheme (rest : String) :
    Form.gsScheme.target? ("gs://" ++ rest) = some ("https://storage.googleapis.com/" ++ rest) := by
  have behind : after? "gs://".toList ("gs://" ++ rest).toList = some rest.toList := by
    rw [String.toList_append, after?_append]
  have moved : String.ofList (storageEndpoint ++ rest.toList) =
      "https://storage.googleapis.com/" ++ rest := by
    rw [String.ofList_append, String.ofList_toList]
    rfl
  rw [Form.target?, behind, Option.map_some, moved]

/-- A text that refers to an object is fetched with a token, and so is a text that begins with
`gs://` but lacks the name of a bucket or of an object; what is fetched for it names no object.
Every other text is fetched without a token. -/
theorem object_named_unless_incomplete (url : String) :
    (RefersToObject url.toList →
      ∃ target, classify url = .storage target ∧ NamesObject target.toList) ∧
    (¬RefersToObject url.toList →
      ((∀ rest, url ≠ "gs://" ++ rest) ∧ classify url = .plain url) ∨
      ∃ rest, url = "gs://" ++ rest ∧
        classify url = .storage ("https://storage.googleapis.com/" ++ rest) ∧
        ¬NamesObject ("https://storage.googleapis.com/" ++ rest).toList) := by
  have endpoint (rest : String) :
      NamesObject ("https://storage.googleapis.com/" ++ rest).toList ↔ NamesBoth rest.toList := by
    rw [String.toList_append]
    exact namesObject_endpoint_iff
  have fetched (rest : String) : classify ("gs://" ++ rest) =
      .storage ("https://storage.googleapis.com/" ++ rest) :=
    classify_eq_storage_iff.mpr ⟨.gsScheme, target?_gsScheme rest⟩
  constructor
  · rintro (⟨rest, spelled, both⟩ | web)
    · obtain rfl : url = "gs://" ++ String.ofList rest := eq_append_ofList spelled
      refine ⟨_, fetched _, (endpoint _).mpr ?_⟩
      rw [String.toList_ofList]
      exact both
    · refine ⟨url, classify_eq_storage_iff.mpr ?_, namesObject_of_web web⟩
      rcases web with hosted | pathed
      · exact ⟨.virtualHosted, if_pos (isVirtualHosted_iff.mpr hosted)⟩
      · exact ⟨.pathStyle, if_pos (isPathStyle_iff.mpr pathed)⟩
  · intro other
    by_cases marked : ∃ rest, url = "gs://" ++ rest
    · obtain ⟨rest, rfl⟩ := marked
      refine .inr ⟨rest, rfl, fetched rest, fun named => other (.inl ⟨rest.toList, ?_, ?_⟩)⟩
      · exact String.toList_append ..
      · exact (endpoint rest).mp named
    · rw [not_exists] at marked
      refine .inl ⟨marked, classify_of_formless fun form spelled => ?_⟩
      cases form with
      | gsScheme =>
          generalize chars : url.toList = text at spelled
          obtain ⟨rest⟩ := spelled
          exact marked (String.ofList rest) (eq_append_ofList chars)
      | virtualHosted => exact other (.inr (.inl spelled))
      | pathStyle => exact other (.inr (.inr spelled))

/-- The name of a bucket alone is fetched with a token, although it names no object. -/
theorem lone_bucket_fetched :
    classify "gs://bucket" = .storage "https://storage.googleapis.com/bucket" ∧
      ¬NamesObject "https://storage.googleapis.com/bucket".toList := by
  refine ⟨by decide, fun named => ?_⟩
  have both : NamesBoth "bucket".toList := namesObject_endpoint_iff.mp named
  exact not_namesBoth_of_slashless (by decide) both

end Origin
end Script
end InstanceScripts
