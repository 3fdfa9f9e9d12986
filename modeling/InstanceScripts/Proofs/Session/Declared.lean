import InstanceScripts.Proofs.Session.TokenCache
import Mathlib.Data.List.Nodup

/-!
# Which scripts are found

The scripts found are those that one scope of the metadata declares, whether they can be staged
or not.  The attributes of the instance hide those of the project as soon as they declare a
script, even if it cannot be staged.
-/

namespace InstanceScripts

namespace Script

/-! ## Scopes -/

/-- A scope of a metadata tree has attributes: the tree is an object, it holds an object under
the name of the scope, and that holds the attributes, an object too. -/
def HasAttributes (tree : Json) (scope : String) (attributes : Attributes) : Prop :=
  ∃ scopes within, tree = .obj scopes ∧ scopes.lookup scope = some (.obj within) ∧
    within.lookup "attributes" = some (.obj attributes)

/-- A scope of a metadata tree declares a text under a key: its attributes hold the text there,
and the text is not empty. -/
def ScopeHolds (tree : Json) (scope name text : String) : Prop :=
  ∃ attributes, HasAttributes tree scope attributes ∧
    attributes.lookup name = some (.str text) ∧ text ≠ ""

theorem scopeAttributes_eq_some_iff {tree : Json} {scope : String} {attributes : Attributes} :
    scopeAttributes tree scope = some attributes ↔ HasAttributes tree scope attributes := by
  unfold scopeAttributes HasAttributes
  simp only [Option.bind_eq_some_iff, Json.members?_eq_some_iff, Json.member?_eq_some_iff]
  constructor
  · rintro ⟨_, ⟨scopes, rfl, found⟩, _, ⟨within, rfl, held⟩, rfl⟩
    exact ⟨scopes, within, rfl, found, held⟩
  · rintro ⟨scopes, within, rfl, found, held⟩
    exact ⟨_, ⟨scopes, rfl, found⟩, _, ⟨within, rfl, held⟩, rfl⟩

/-! ## What attributes declare -/

/-- Attributes hold a text that is not empty under a key. -/
def Holds (attributes : Option Attributes) (key text : String) : Prop :=
  ∃ members, attributes = some members ∧ members.lookup key = some (.str text) ∧ text ≠ ""

theorem holds_some {members : Attributes} {name text : String} :
    Holds (some members) name text ↔ members.lookup name = some (.str text) ∧ text ≠ "" := by
  simp [Holds]

theorem attributeText_eq_some_iff {attributes : Attributes} {name text : String} :
    attributeText attributes name = some text ↔
      attributes.lookup name = some (.str text) ∧ text ≠ "" := by
  unfold attributeText
  simp only [Option.filter_eq_some_iff, Option.bind_eq_some_iff, Json.text?_eq_some_iff]
  constructor
  · rintro ⟨⟨_, found, rfl⟩, full⟩
    exact ⟨found, by simpa using full⟩
  · rintro ⟨found, full⟩
    exact ⟨⟨.str text, found, rfl⟩, by simpa using full⟩

theorem declaredIn_eq_some_iff
    {attributes : Option Attributes} {kind : Kind} {scriptType text : String} :
    declaredIn attributes kind scriptType = some text ↔
      Holds attributes (kind.metadataKey scriptType) text := by
  unfold declaredIn Holds declared
  rw [Option.bind_eq_some_iff]
  simp only [attributeText_eq_some_iff]

theorem declaredIn_eq_none_iff
    {attributes : Option Attributes} {kind : Kind} {scriptType : String} :
    declaredIn attributes kind scriptType = none ↔
      ¬∃ text, Holds attributes (kind.metadataKey scriptType) text := by
  simp only [← declaredIn_eq_some_iff, Option.eq_none_iff_forall_ne_some, not_exists, ne_eq]

theorem holds_scopeAttributes_iff {tree : Json} {scope name text : String} :
    Holds (scopeAttributes tree scope) name text ↔ ScopeHolds tree scope name text := by
  unfold Holds ScopeHolds
  simp only [scopeAttributes_eq_some_iff]

theorem declares_iff {attributes : Option Attributes} {scriptType : String} :
    declares attributes scriptType = true ↔
      ∃ (kind : Kind) (text : String), Holds attributes (kind.metadataKey scriptType) text := by
  unfold declares
  rw [Bool.or_eq_true, Option.isSome_iff_exists, Option.isSome_iff_exists]
  simp only [declaredIn_eq_some_iff]
  constructor
  · rintro (⟨text, held⟩ | ⟨text, held⟩)
    · exact ⟨.inline, text, held⟩
    · exact ⟨.url, text, held⟩
  · rintro ⟨kind, text, held⟩
    cases kind with
    | inline => exact .inl ⟨text, held⟩
    | url => exact .inr ⟨text, held⟩

/-- The attributes that count are those of a scope: of the instance if it declares a script, and
of the project otherwise. -/
theorem exists_scope (tree : Json) (scriptType : String) :
    ∃ scope,
      ((∃ (kind : Kind) (text : String),
        ScopeHolds tree "instance" (kind.metadataKey scriptType) text) → scope = "instance") ∧
      ((¬∃ (kind : Kind) (text : String),
        ScopeHolds tree "instance" (kind.metadataKey scriptType) text) → scope = "project") ∧
      effective tree scriptType = scopeAttributes tree scope := by
  simp only [← holds_scopeAttributes_iff, ← declares_iff]
  unfold effective
  split
  · next declared => exact ⟨"instance", by simp, by simp [declared], rfl⟩
  · next undeclared => exact ⟨"project", by simp [undeclared], by simp, rfl⟩

end Script

namespace Session

/-- The keys of the entries are those under which the attributes declare a script. -/
theorem keys_entries (session : Session) (attributes : Option Script.Attributes)
    (directory : String) :
    (session.entries attributes directory).map Prod.fst =
      ([Script.Kind.inline, .url].filter fun kind =>
        (Script.declaredIn attributes kind session.scriptType).isSome).map
          fun kind => kind.metadataKey session.scriptType := by
  unfold entries inlineEntry urlEntry
  rw [withInline_scriptType]
  cases inline : Script.declaredIn attributes .inline session.scriptType with
  | none =>
      cases url : Script.declaredIn attributes .url session.scriptType with
      | none => simp [inline, url]
      | some target => simp [inline, url]
  | some script =>
      cases url : Script.declaredIn attributes .url session.scriptType with
      | none => simp [inline, url]
      | some target => simp [inline, url]

theorem keys_nodup (session : Session) (attributes : Option Script.Attributes)
    (directory : String) : ((session.entries attributes directory).map Prod.fst).Nodup := by
  rw [keys_entries]
  refine List.Nodup.map ?_ (List.Nodup.filter _ (by decide))
  intro kind other same
  exact (Script.metadataKey_inj same).1

theorem mem_keys_iff
    {session : Session} {attributes : Option Script.Attributes} {directory key : String} :
    key ∈ (session.entries attributes directory).map Prod.fst ↔
      ∃ (kind : Script.Kind) (text : String),
        key = kind.metadataKey session.scriptType ∧ Script.Holds attributes key text := by
  rw [keys_entries, List.mem_map]
  constructor
  · rintro ⟨kind, listed, rfl⟩
    obtain ⟨text, declared⟩ := Option.isSome_iff_exists.mp (List.mem_filter.mp listed).2
    exact ⟨kind, text, rfl, Script.declaredIn_eq_some_iff.mp declared⟩
  · rintro ⟨kind, text, rfl, held⟩
    have declared := Script.declaredIn_eq_some_iff.mpr held
    refine ⟨kind, List.mem_filter.mpr ⟨?_, by simp [declared]⟩, rfl⟩
    cases kind <;> simp

/-- A script that attributes hold has an entry, with a file if it can be staged. -/
theorem entry_inline (session : Session) {attributes : Option Script.Attributes}
    {script : String}
    (held : Script.Holds attributes (Script.Kind.inline.metadataKey session.scriptType) script)
    (directory : String) :
    (session.entries attributes directory).lookup
        (Script.Kind.inline.metadataKey session.scriptType) =
      some (session.area.stage directory script).1.toOption := by
  rw [lookup_inline, Script.declaredIn_eq_some_iff.mpr held]
  rfl

/-- A script that attributes point at has an entry, with a file if it can be downloaded. -/
theorem entry_url (session : Session) {attributes : Option Script.Attributes} {url : String}
    (held : Script.Holds attributes (Script.Kind.url.metadataKey session.scriptType) url)
    (directory : String) :
    (session.entries attributes directory).lookup
        (Script.Kind.url.metadataKey session.scriptType) =
      some ((session.withInline attributes directory).downloadScript url directory).1.toOption := by
  rw [lookup_url, Script.declaredIn_eq_some_iff.mpr held, downloadScript_eq]
  rfl

section

variable (session : Session) {attributes : Option Script.Attributes}

theorem withInline_of_holds {script : String}
    (held : Script.Holds attributes (Script.Kind.inline.metadataKey session.scriptType) script)
    (directory : String) :
    session.withInline attributes directory =
      { session with area := (session.area.stage directory script).2 } := by
  rw [withInline, Script.declaredIn_eq_some_iff.mpr held]

theorem withInline_of_not_holds
    (unheld : ¬∃ script,
      Script.Holds attributes (Script.Kind.inline.metadataKey session.scriptType) script)
    (directory : String) : session.withInline attributes directory = session := by
  rw [withInline, Script.declaredIn_eq_none_iff.mpr unheld]

theorem withDownload_of_holds {url : String}
    (held : Script.Holds attributes (Script.Kind.url.metadataKey session.scriptType) url)
    (directory : String) :
    session.withDownload attributes directory = (session.downloadScript url directory).2 := by
  rw [withDownload, Script.declaredIn_eq_some_iff.mpr held]

theorem withDownload_of_not_holds
    (unheld : ¬∃ url,
      Script.Holds attributes (Script.Kind.url.metadataKey session.scriptType) url)
    (directory : String) : session.withDownload attributes directory = session := by
  rw [withDownload, Script.declaredIn_eq_none_iff.mpr unheld]

end

/-- The question for all metadata, with the answer that the source would give now. -/
def treeQuery (session : Session) : Metadata.Query :=
  ⟨none, true, true, session.answer none true true⟩

/-- The questions that retrieving scripts asks: one for everything, and no other one but for
a token. -/
theorem scripts_asks (session : Session) (directory : String) :
    ∃ later, session.Asks (session.treeQuery :: later) (session.scripts directory).2 ∧
      ∀ query ∈ later, query.key = some Token.metadataKey := by
  have ending := session.perform_resembles (.scripts directory)
  unfold settled at ending
  change (session.scripts directory).2.Resembles _ at ending
  rw [ending]
  have opened : session.Asks [session.treeQuery] (session.prepared (.scripts directory)) :=
    (session.lookUp_asks none true true).trans (session.opened.withInline_frame _ directory).2.1
  cases made : session.download? (.scripts directory) with
  | none => exact ⟨[], opened.reported _, by simp⟩
  | some download =>
      have asks := download.token_exit.1
      rw [(perform_download made).1] at asks
      refine ⟨download.query?.toList, (opened.trans asks).reported _, ?_⟩
      intro query member
      rw [← tokenQueries_query?] at member
      simpa using (List.mem_filter.mp member).2

/-- A table is asked for everything once. -/
theorem scripts_requestCount {session : Session} {table : Metadata.Table}
    (canned : session.source = .canned table) (directory : String) :
    ∃ later, (session.scripts directory).2.source = .canned later ∧
      later.requestCount "" = table.requestCount "" + 1 := by
  obtain ⟨queries, asks, tokens⟩ := session.scripts_asks directory
  obtain ⟨later, source, counts⟩ := asks.requestCount canned
  refine ⟨later, source, ?_⟩
  have unnamed : "" ∉ queries.map Metadata.Query.name := by
    intro member
    obtain ⟨query, listed, named⟩ := List.mem_map.mp member
    rw [Metadata.Query.name, tokens query listed] at named
    exact absurd named (by decide)
  rw [counts, List.map_cons, List.count_cons, List.count_eq_zero_of_not_mem unnamed]
  rfl

/-- Retrieving scripts asks for all metadata exactly once.  The scope that counts is that of the
instance if it declares a script under either key, and that of the project otherwise.  Whatever
the answer is, there is an entry for each script that this scope declares and none beside: with a
file if the script at hand could be staged or the one at a URL be downloaded, and without one
otherwise.  Nothing else is staged or requested: the session that is left behind has read the
metadata, staged the script at hand if one is declared, and downloaded the one at a URL if one is
declared. -/
theorem scripts_exact (session : Session) (directory : String) :
    let told := session.source.get session.network none true true session.history
    let tree := Metadata.treeIn told.1
    let asked : Metadata.Query := ⟨none, true, true, told.1⟩
    let opened : Session :=
      { session with
        source := told.2.1, queries := session.queries ++ [asked], history := told.2.2 }
    let key : Script.Kind → String
      | .inline => session.scriptType ++ "-script"
      | .url => session.scriptType ++ "-script-url"
    let run := session.scripts directory
    ∃ scope ready,
      ((∃ kind text, Script.ScopeHolds tree "instance" (key kind) text) → scope = "instance") ∧
      ((¬∃ kind text, Script.ScopeHolds tree "instance" (key kind) text) → scope = "project") ∧
      (run.1.map Prod.fst).Nodup ∧
      (∀ name, name ∈ run.1.map Prod.fst ↔
        ∃ kind text, name = key kind ∧ Script.ScopeHolds tree scope name text) ∧
      (∀ script, Script.ScopeHolds tree scope (key .inline) script →
        run.1.lookup (key .inline) = some (session.area.stage directory script).1.toOption ∧
          ready = { opened with area := (session.area.stage directory script).2 }) ∧
      ((¬∃ script, Script.ScopeHolds tree scope (key .inline) script) → ready = opened) ∧
      (∀ url, Script.ScopeHolds tree scope (key .url) url →
        run.1.lookup (key .url) = some (ready.downloadScript url directory).1.toOption ∧
          run.2.Resembles (ready.downloadScript url directory).2) ∧
      ((¬∃ url, Script.ScopeHolds tree scope (key .url) url) → run.2.Resembles ready) ∧
      ∃ later, session.Asks (asked :: later) run.2 ∧
        ∀ query ∈ later, query.key = some Token.metadataKey := by
  intro told tree asked opened key run
  have keys : key = fun kind => kind.metadataKey session.scriptType := by
    funext kind
    cases kind <;> rfl
  rw [keys]
  obtain ⟨scope, own, shared, counts⟩ := Script.exists_scope tree session.scriptType
  obtain ⟨listed, ending⟩ := session.scripts_agrees directory
  change run.1 = opened.entries (Script.effective tree session.scriptType) directory at listed
  change run.2.Resembles ((opened.withInline (Script.effective tree session.scriptType)
    directory).withDownload (Script.effective tree session.scriptType) directory) at ending
  rw [counts] at listed ending
  have types := opened.withInline_scriptType (Script.scopeAttributes tree scope) directory
  refine ⟨scope, opened.withInline (Script.scopeAttributes tree scope) directory, own, shared, ?_,
    ?_, ?_, ?_, ?_, ?_, session.scripts_asks directory⟩
  · rw [listed]
    exact keys_nodup _ _ _
  · intro name
    rw [listed, mem_keys_iff]
    simp only [Script.holds_scopeAttributes_iff]
    rfl
  · intro script held
    rw [← Script.holds_scopeAttributes_iff] at held
    rw [listed]
    exact ⟨opened.entry_inline held directory, opened.withInline_of_holds held directory⟩
  · intro unheld
    simp only [← Script.holds_scopeAttributes_iff] at unheld
    exact opened.withInline_of_not_holds unheld directory
  · intro url held
    rw [← Script.holds_scopeAttributes_iff] at held
    rw [withDownload_of_holds _ (by rw [types]; exact held)] at ending
    rw [listed]
    exact ⟨opened.entry_url held directory, ending⟩
  · intro unheld
    simp only [← Script.holds_scopeAttributes_iff] at unheld
    rw [withDownload_of_not_holds _ (by rw [types]; exact unheld)] at ending
    exact ending

/-- A session whose table gives some metadata. -/
def reading (tree : Json) : Session :=
  start "startup" .standard Http.unreachableNetwork (.canned (Metadata.Table.empty.withTree tree))
    .tallied

/-- Metadata with attributes of an instance and of its project. -/
def attributesTree (own shared : Script.Attributes) : Json :=
  .obj [("instance", .obj [("attributes", .obj own)]),
    ("project", .obj [("attributes", .obj shared)])]

theorem scopeHolds_instance {own shared : Script.Attributes} {name text : String} :
    Script.ScopeHolds (attributesTree own shared) "instance" name text ↔
      own.lookup name = some (.str text) ∧ text ≠ "" := by
  rw [← Script.holds_scopeAttributes_iff]
  exact Script.holds_some

theorem scopeHolds_project {own shared : Script.Attributes} {name text : String} :
    Script.ScopeHolds (attributesTree own shared) "project" name text ↔
      shared.lookup name = some (.str text) ∧ text ≠ "" := by
  rw [← Script.holds_scopeAttributes_iff]
  exact Script.holds_some

/-- A script of the instance that cannot be downloaded hides the one of the project.  Where the
instance declares none, as null is no text, those of the project are found. -/
theorem declared_found :
    let inline := ("startup-script", Json.str " x")
    let url := ("startup-script-url", Json.str "y")
    let failing := (reading (attributesTree [url] [inline])).scripts "d"
    let sharing := (reading (attributesTree [("startup-script", .null)] [inline, url])).scripts "d"
    (∀ name, name ∈ failing.1.map Prod.fst ↔ name = "startup-script-url") ∧
      failing.1.lookup "startup-script-url" = some none ∧
      sharing.1.lookup "startup-script" = some (some 0) ∧
      sharing.1.lookup "startup-script-url" = some none ∧
      ∃ table, sharing.2.source = .canned table ∧ table.requestCount "" = 1 := by
  intro inline url failing sharing
  have inlineKey : "startup-script" = Script.Kind.inline.metadataKey "startup" := by decide
  have urlKey : "startup-script-url" = Script.Kind.url.metadataKey "startup" := by decide
  have failingUrl : Script.ScopeHolds (attributesTree [url] [inline]) "instance"
      "startup-script-url" "y" := scopeHolds_instance.mpr ⟨rfl, by decide⟩
  have failingInline : ¬∃ text, Script.ScopeHolds (attributesTree [url] [inline]) "instance"
      "startup-script" text := by
    rintro ⟨text, declared⟩
    cases (scopeHolds_instance.mp declared).1
  have sharingNone : ¬∃ (kind : Script.Kind) (text : String), Script.ScopeHolds
      (attributesTree [("startup-script", .null)] [inline, url]) "instance"
      (kind.metadataKey "startup") text := by
    rintro ⟨kind, text, declared⟩
    have found := (scopeHolds_instance.mp declared).1
    cases kind with
    | inline =>
        rw [← inlineKey] at found
        cases found
    | url =>
        rw [← urlKey] at found
        cases found
  have sharingInline : Script.ScopeHolds
      (attributesTree [("startup-script", .null)] [inline, url]) "project"
      "startup-script" " x" := scopeHolds_project.mpr ⟨rfl, by decide⟩
  have sharingUrl : Script.ScopeHolds
      (attributesTree [("startup-script", .null)] [inline, url]) "project"
      "startup-script-url" "y" := scopeHolds_project.mpr ⟨rfl, by decide⟩
  rw [inlineKey] at failingInline sharingInline
  rw [urlKey] at failingUrl sharingUrl
  rw [inlineKey, urlKey]
  obtain ⟨_, _, own, _, _, keys, _, bare, hidden, _⟩ :=
    scripts_exact (reading (attributesTree [url] [inline])) "d"
  obtain rfl := own ⟨.url, "y", failingUrl⟩
  obtain rfl := bare failingInline
  obtain ⟨_, _, _, shared, _, _, staged, _, downloaded, _⟩ :=
    scripts_exact (reading (attributesTree [("startup-script", .null)] [inline, url])) "d"
  obtain rfl := shared sharingNone
  obtain ⟨kept, rfl⟩ := staged " x" sharingInline
  refine ⟨fun name => ?_, (hidden "y" failingUrl).1.trans ?_, kept,
    (downloaded "y" sharingUrl).1.trans ?_, ?_⟩
  · rw [keys]
    constructor
    · rintro ⟨kind, text, rfl, declared⟩
      cases kind with
      | inline => exact absurd ⟨text, declared⟩ failingInline
      | url => rfl
    · rintro rfl
      exact ⟨.url, "y", rfl, failingUrl⟩
  · decide +kernel
  · decide +kernel
  · obtain ⟨table, source, count⟩ := scripts_requestCount (show
      (reading (attributesTree [("startup-script", .null)] [inline, url])).source = .canned _
        from rfl) "d"
    exact ⟨table, source, count⟩

end Session
end InstanceScripts
