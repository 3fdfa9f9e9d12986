import InstanceScripts.Proofs.Http.Confinement
import InstanceScripts.Proofs.Session.Step

/-!
# Whom a session tells its credentials

While metadata come from a table, every request of a session belongs to a download.  A session
that is asked for scripts, and not for the download of just any URL with its token, sends the
token to Cloud Storage only.
-/

namespace InstanceScripts

open Http (Exchange Network AllConfined Confined)
open Script.Origin (LeadsToStorage)

namespace Session

/-- A session whose metadata come from a table. -/
def IsCanned (session : Session) : Prop :=
  ∃ table, session.source = .canned table

/-- Whether asked for a token or not, a table is left alone and nothing is sent. -/
theorem provided_canned {session : Session} (canned : session.IsCanned) :
    session.provided.IsCanned ∧ session.provided.history = session.history := by
  obtain ⟨table, source⟩ := canned
  unfold provided
  cases session.token with
  | some token => exact ⟨⟨table, source⟩, rfl⟩
  | none =>
      obtain ⟨unsent, asked, left⟩ :=
        lookUp_canned source (some Token.metadataKey) false false
      exact ⟨⟨asked, left⟩, unsent⟩

theorem PlainCourse.confined
    {session after : Session} {url directory : String} {outcome : Except Failure Nat}
    (course : PlainCourse session url directory outcome after) (canned : session.IsCanned) :
    after.IsCanned ∧ ∃ sent, after.history = session.history ++ sent ∧ AllConfined [url] sent := by
  cases course with
  | refused => exact ⟨canned, [], by simp, .nil [url]⟩
  | failed sent log failure granted retried =>
      exact ⟨canned, sent, rfl, retried.confined fun _ _ attempt => attempt.confined⟩
  | done sent log body granted retried =>
      exact ⟨canned, sent, rfl, retried.confined fun _ _ attempt => attempt.confined⟩

theorem AuthorizedCourse.confined
    {session after : Session} {url directory : String} {outcome : Except Failure Nat}
    (course : AuthorizedCourse session url directory outcome after) (canned : session.IsCanned)
    (storage : ∀ target, Url.parse url = .ok target → LeadsToStorage target) :
    after.IsCanned ∧ ∃ sent, after.history = session.history ++ sent ∧ AllConfined [url] sent := by
  obtain ⟨still, unsent⟩ := provided_canned canned
  cases course with
  | refused => exact ⟨canned, [], by simp, .nil [url]⟩
  | failed token sent log result failure granted usable retried =>
      exact ⟨still, sent, by rw [unsent],
        retried.confined fun _ _ attempt => attempt.confined storage⟩
  | done token sent log body granted usable retried =>
      exact ⟨still, sent, by rw [unsent],
        retried.confined fun _ _ attempt => attempt.confined storage⟩
  | unequipped log _ _ granted unusable course =>
      obtain ⟨left, sent, grown, confined⟩ := course.confined still
      exact ⟨left, sent, by rw [grown, ← unsent]; rfl, confined⟩

/-- A script is downloaded with a token only if its URL leads to Cloud Storage. -/
theorem scriptDownload_storage
    {session : Session} {text directory : String} {target : Url}
    (authorized : (session.scriptDownload text directory).authorized = true)
    (parsed : Url.parse (session.scriptDownload text directory).url = .ok target) :
    LeadsToStorage target := by
  unfold scriptDownload at authorized parsed
  cases classified : Script.Origin.classify text with
  | storage spelled =>
      rw [classified] at parsed
      exact Script.Origin.leadsToStorage_of_parse classified parsed
  | plain spelled =>
      rw [classified] at authorized
      cases authorized

/-- A step that is not told to present the token to a URL does so only for Cloud Storage. -/
theorem download?_storage
    {session : Session} {step : Step} {download : Download}
    (made : session.download? step = some download)
    (indirect : ∀ url directory, step ≠ .downloadAuthorized url directory)
    (authorized : download.authorized = true) {target : Url}
    (parsed : Url.parse download.url = .ok target) : LeadsToStorage target := by
  cases step with
  | scripts directory =>
      obtain ⟨url, declared, rfl⟩ := Option.map_eq_some_iff.mp made
      exact scriptDownload_storage authorized parsed
  | attributeScripts attributes directory =>
      obtain ⟨url, declared, rfl⟩ := Option.map_eq_some_iff.mp made
      exact scriptDownload_storage authorized parsed
  | downloadScript url directory =>
      cases made
      exact scriptDownload_storage authorized parsed
  | downloadAuthorized url directory => exact absurd rfl (indirect url directory)
  | downloadPlain url directory =>
      cases made
      cases authorized

theorem withInline_canned (session : Session) (canned : session.IsCanned)
    (attributes : Option Script.Attributes) (directory : String) :
    (session.withInline attributes directory).IsCanned ∧
      (session.withInline attributes directory).history = session.history := by
  unfold withInline
  split <;> exact ⟨canned, rfl⟩

/-- Before its download, a step sends nothing if metadata come from a table. -/
theorem prepared_canned {session : Session} (canned : session.IsCanned) (step : Step) :
    (session.prepared step).IsCanned ∧ (session.prepared step).history = session.history := by
  cases step with
  | scripts directory =>
      obtain ⟨table, source⟩ := canned
      obtain ⟨unsent, asked, left⟩ := lookUp_canned source none true true
      obtain ⟨still, same⟩ := session.opened.withInline_canned ⟨asked, left⟩
        (Script.effective session.tree session.scriptType) directory
      exact ⟨still, same.trans unsent⟩
  | attributeScripts attributes directory => exact session.withInline_canned canned attributes directory
  | downloadScript => exact ⟨canned, rfl⟩
  | downloadAuthorized => exact ⟨canned, rfl⟩
  | downloadPlain => exact ⟨canned, rfl⟩

/-- All requests of a step are confined to what its download may send. -/
theorem perform_confined
    {session : Session} (canned : session.IsCanned) (step : Step)
    (indirect : ∀ url directory, step ≠ .downloadAuthorized url directory) :
    (session.perform step).2.IsCanned ∧
      ∃ sent, (session.perform step).2.history = session.history ++ sent ∧
        AllConfined ((session.download? step).toList.map (·.url)) sent := by
  have ending := session.perform_resembles step
  obtain ⟨still, unsent⟩ := prepared_canned canned step
  unfold settled at ending
  rw [ending]
  cases made : session.download? step with
  | none => exact ⟨still, [], by simpa using unsent, .nil _⟩
  | some download =>
      rw [← (perform_download made).1] at still unsent
      have left : download.exit.IsCanned ∧
          ∃ sent, download.exit.history = download.entry.history ++ sent ∧
            AllConfined [download.url] sent := by
        rcases download.course with ⟨authorized, course⟩ | ⟨_, course⟩
        · exact course.confined still fun _ parsed =>
            download?_storage made indirect authorized parsed
        · exact course.confined still
      rwa [unsent] at left

theorem performAll_confined
    {session : Session} (canned : session.IsCanned) {steps : List Step}
    (indirect : ∀ url directory, .downloadAuthorized url directory ∉ steps) :
    ∃ sent, (session.performAll steps).history = session.history ++ sent ∧
      AllConfined ((session.downloads steps).map (·.url)) sent := by
  induction steps generalizing session with
  | nil => exact ⟨[], by simp [performAll], .nil _⟩
  | cons step steps inductionHypothesis =>
      obtain ⟨still, first, begun, confined⟩ := perform_confined canned step
        fun url directory same => indirect url directory (same ▸ List.mem_cons_self)
      obtain ⟨rest, grown, later⟩ := inductionHypothesis still
        fun url directory member => indirect url directory (List.mem_cons_of_mem step member)
      refine ⟨first ++ rest, ?_, ?_⟩
      · rw [performAll, grown, begun, List.append_assoc]
      · rw [downloads, List.map_append]
        exact (confined.mono fun text known => List.mem_append_left _ known).append
          (later.mono fun text known => List.mem_append_right _ known)

/-- A session whose metadata come from a table, and that is never told to present its token to
some URL, confines all its credentials, however its servers answer: every request belongs to
one of its downloads.  It presents nothing but the token, to Cloud Storage, or it is plain and
carries at most the user name and the password of the URL with which its chain of redirects has
begun on the same server. -/
theorem credentials_confined
    (session : Session) (canned : session.IsCanned) (steps : List Step)
    (indirect : ∀ url directory, .downloadAuthorized url directory ∉ steps) :
    ∃ sent, (session.performAll steps).history = session.history ++ sent ∧
      ∀ before exchange after, sent = before ++ exchange :: after →
        ∃ download ∈ session.downloads steps, Confined download.url before exchange := by
  obtain ⟨sent, grown, confined⟩ := performAll_confined canned indirect
  refine ⟨sent, grown, ?_⟩
  intro before exchange after place
  obtain ⟨text, listed, held⟩ := confined [] before exchange after place
  obtain ⟨download, member, rfl⟩ := List.mem_map.mp listed
  exact ⟨download, member, held⟩

/-! ## A redirect on the same server -/

/-- A URL of the host `h` with one segment. -/
def onHost (segment : List Char) : Url :=
  ⟨"http".toList, some ⟨[], none, some (.domain ['h']), none⟩, .segments [segment], none, none⟩

/-- A network whose server redirects from `/a` to `/b` and answers everything else. -/
def redirectingNetwork : Network := fun url _ =>
  if url = onHost ['a'] then .answer 302 [("location", [0x2F, 0x62])] [] false
  else .answer 200 [] [0x78] false

/-- A session in that network. -/
def redirectedSession : Session :=
  .start "startup" .single redirectingNetwork (.canned .empty) .tallied

/-- What the session sends for `http://u:p@h/a`: the header `u:p` comes along to a URL that has
no user name. -/
def redirectedSent : List Exchange :=
  [⟨⟨onHost ['a'], [.basic [0x75, 0x3A, 0x70]], false⟩,
      .answer 302 [("location", [0x2F, 0x62])] [] false⟩,
    ⟨⟨onHost ['b'], [.basic [0x75, 0x3A, 0x70]], false⟩, .answer 200 [] [0x78] false⟩]

theorem location_toLower : "location".toLower = "location" := by
  change String.map Char.toLower "location" = "location"
  simp [← String.toList_inj, String.toList_map]

theorem redirect_found :
    Http.redirect? ⟨302, onHost ['a'], [("location", [0x2F, 0x62])], [], false⟩ =
      some (onHost ['b']) := by
  have located : (Http.Response.mk 302 (onHost ['a']) [("location", [0x2F, 0x62])] []
      false).location? = some [0x2F, 0x62] := by
    simp [Http.Response.location?, Http.Response.header?, location_toLower]
  unfold Http.redirect?
  rw [located]
  decide

set_option maxRecDepth 4000 in
theorem draft_found :
    Http.Draft.ofText "http://u:p@h/a" =
      .ok ⟨onHost ['a'], [.basic [0x75, 0x3A, 0x70]], false⟩ := by
  rfl

theorem send_redirected :
    Http.send redirectingNetwork true ⟨onHost ['a'], [.basic [0x75, 0x3A, 0x70]], false⟩ [] =
      (.ok ⟨200, onHost ['b'], [], [0x78], false⟩, redirectedSent) := by
  unfold Http.send
  rw [if_pos (by decide), if_pos rfl, Http.redirectLimit,
    Http.follow_hop rfl rfl redirect_found (by decide), Http.follow_answered rfl rfl (by decide)]
  rfl

theorem history_redirected :
    (redirectedSession.downloadScript "http://u:p@h/a" "d").2.history = redirectedSent := by
  have plain : Script.Origin.classify "http://u:p@h/a" = .plain "http://u:p@h/a" := by rfl
  have granted : redirectedSession.area.fault? "d" = none := rfl
  have sent : Http.send redirectedSession.network true
      ⟨onHost ['a'], [.basic [0x75, 0x3A, 0x70]], false⟩ redirectedSession.history =
        (.ok ⟨200, onHost ['b'], [], [0x78], false⟩, redirectedSent) := send_redirected
  have whole : Http.bodyOf ⟨200, onHost ['b'], [], [0x78], false⟩ = .ok [0x78] := rfl
  have written := redirectedSession.area.write_withFile "d" [] [0x78]
  have fetched : Http.fetchToFile redirectedSession.network "http://u:p@h/a"
      redirectedSession.area.files.length
      (redirectedSession.history, redirectedSession.area.withFile "d" []) =
        (.ok (), redirectedSent, redirectedSession.area.withFile "d" [0x78]) := by
    simp only [Http.fetchToFile, draft_found, sent, whole, written]
  unfold downloadScript
  rw [plain]
  simp only [downloadPlain, Staging.Area.reserve_granted granted, report,
    Retry.Policy.run_ok _ _ _ fetched]

/-- A user name and a password need not come from the URL of the request that carries them. -/
theorem basic_follows_redirect :
    ∃ first second response target,
      (redirectedSession.downloadScript "http://u:p@h/a" "d").2.history = [first, second] ∧
      first.response? = some response ∧ Http.redirect? response = some target ∧
      Http.Draft.userinfo? target = none ∧ second.request.url = target.withoutFragment ∧
      second.request.IsPlain ∧ second.request.credentials = [.basic [0x75, 0x3A, 0x70]] :=
  ⟨_, _, ⟨302, onHost ['a'], [("location", [0x2F, 0x62])], [], false⟩, onHost ['b'],
    history_redirected, rfl, redirect_found, rfl, rfl, ⟨rfl, rfl⟩, rfl⟩

/-- The requests around that redirect are confined. -/
theorem redirected_confined :
    ∃ download ∈ redirectedSession.downloads [.downloadScript "http://u:p@h/a" "d"],
      ∀ before exchange after, redirectedSent = before ++ exchange :: after →
        Confined download.url before exchange := by
  obtain ⟨sent, grown, confined⟩ :=
    redirectedSession.credentials_confined ⟨.empty, rfl⟩ [.downloadScript "http://u:p@h/a" "d"]
      (by simp)
  obtain rfl : redirectedSent = sent := by
    have ended := history_redirected
    rw [performAll, performAll, perform] at grown
    generalize redirectedSession.downloadScript "http://u:p@h/a" "d" = run at ended grown
    exact ended.symm.trans grown
  refine ⟨_, List.mem_singleton_self _, ?_⟩
  intro before exchange after place
  obtain ⟨download, member, held⟩ := confined before exchange after place
  obtain rfl := List.mem_singleton.mp member
  exact held

end Session
end InstanceScripts
