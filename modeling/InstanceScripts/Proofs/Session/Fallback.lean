import InstanceScripts.Proofs.Session.Agreement

/-!
# Downloads that fall back

A download that is to present a token and finds none is a plain one in the end.  All that is left
of the attempt to get a token is the question for it, an empty file in front of the one that holds
the script, and what has been reported.
-/

namespace InstanceScripts

/-! ## Answers without a token -/

namespace Token

/-- An answer to the question for a token that is of no use: an error, no value, or any value but
an object with members. -/
def Unusable : Except Failure (Option Json) → Prop
  | .ok (some (.obj members)) => members = []
  | _ => True

theorem ofAnswer?_eq_none_iff (answer : Except Failure (Option Json)) :
    ofAnswer? answer = none ↔ Unusable answer := by
  rcases answer with failure | _ | value
  · simp [ofAnswer?, Unusable]
  · simp [ofAnswer?, Unusable]
  · cases value with
    | obj members => cases members <;> simp [ofAnswer?, compose, Unusable]
    | str text => by_cases blank : text = "" <;> simp [ofAnswer?, compose, Unusable, blank]
    | _ => simp [ofAnswer?, compose, Unusable]

end Token

/-! ## The same attempts in two areas -/

namespace Http

/-- Attempts that save into the file reserved last, each in its own area, have made the same
requests and saved the same. -/
def SavesAlike (area other : Staging.Area) (directory : String)
    (left right : History × Staging.Area) : Prop :=
  left.1 = right.1 ∧ ∃ body, left.2 = area.withFile directory body ∧
    right.2 = other.withFile directory body

/-- What an attempt does has nothing to do with the files that are there already. -/
theorem fetchToFile_savesAlike (network : Network) (url : String)
    {area other : Staging.Area} {directory : String} {left right : History × Staging.Area}
    (alike : SavesAlike area other directory left right) :
    (fetchToFile network url area.files.length left).1 =
        (fetchToFile network url other.files.length right).1 ∧
      SavesAlike area other directory (fetchToFile network url area.files.length left).2
        (fetchToFile network url other.files.length right).2 := by
  obtain ⟨history, _⟩ := left
  obtain ⟨_, _⟩ := right
  obtain ⟨rfl, body, rfl, rfl⟩ := alike
  unfold fetchToFile
  dsimp only
  cases Draft.ofText url with
  | error fault => exact ⟨rfl, rfl, body, rfl, rfl⟩
  | ok draft =>
      dsimp only
      rcases send network true draft history with ⟨fault | response, after⟩
      · exact ⟨rfl, rfl, body, rfl, rfl⟩
      · dsimp only
        cases bodyOf response with
        | error failure => exact ⟨rfl, rfl, body, rfl, rfl⟩
        | ok brought =>
            dsimp only
            rw [Staging.Area.write_withFile, Staging.Area.write_withFile]
            exact ⟨rfl, rfl, brought, rfl, rfl⟩

end Http

namespace Session

/-! ## Plain downloads in two areas -/

/-- Plain downloads in sessions that differ in their files and reports only end alike, and save
the same body. -/
theorem downloadPlain_elsewhere {session : Session} {directory : String} (url : String)
    (area : Staging.Area) (log : List Log.Line) (granted : session.area.fault? directory = none)
    (alsoGranted : area.fault? directory = none) :
    let plain := session.downloadPlain url directory
    let other := { session with area := area, log := log }.downloadPlain url directory
    (∃ outcome : Except Failure Unit,
      plain.1 = outcome.map (fun _ => session.area.files.length) ∧
      other.1 = outcome.map (fun _ => area.files.length)) ∧
    ∃ body log, plain.2.area = session.area.withFile directory body ∧
      other.2 = { plain.2 with area := area.withFile directory body, log := log } := by
  intro plain other
  let moved : Session := { session with area := area, log := log }
  obtain ⟨result, history, saved⟩ := downloadPlain_granted url granted
  obtain ⟨otherResult, otherHistory, otherSaved⟩ :=
    @downloadPlain_granted moved directory url alsoGranted
  obtain ⟨outcomes, sameHistory, body, left, right⟩ := session.policy.run_related
    Failure.isTransient (Http.SavesAlike session.area area directory)
    (fun _ _ => Http.fetchToFile_savesAlike session.network url)
    (show Http.SavesAlike session.area area directory
      (session.history, session.area.withFile directory [])
      (session.history, area.withFile directory []) from ⟨rfl, [], rfl, rfl⟩)
  refine ⟨⟨_, result, ?_⟩, body, other.2.log, saved.trans left, ?_⟩
  · rw [outcomes]
    exact otherResult
  · have framed := (session.downloadPlain_course url directory).frame
    have otherFramed := (moved.downloadPlain_course url directory).frame
    have histories : other.2.history = plain.2.history :=
      (otherHistory.trans sameHistory.symm).trans history.symm
    have areas : other.2.area = area.withFile directory body := otherSaved.trans right
    calc other.2 = { session with
          area := other.2.area, history := other.2.history, log := other.2.log } := otherFramed
      _ = { session with
          area := area.withFile directory body
          history := plain.2.history
          log := other.2.log } := by rw [areas, histories]
      _ = { plain.2 with area := area.withFile directory body, log := other.2.log } :=
        (congrArg (fun after : Session =>
          { after with area := area.withFile directory body, log := other.2.log }) framed).symm

/-! ## The question for a token -/

/-- The session once the question for a token has been asked. -/
def asked (session : Session) : Session :=
  (session.lookUp (some Token.metadataKey) false false).2

/-- A server is asked for a token once, and a table without any request. -/
def AsksOnce (session : Session) : Prop :=
  (∀ server, session.source = .remote server →
    Metadata.fetch server.decoder session.network (server.urlFor (some Token.metadataKey)) false
      session.history = (session.tokenAnswer, session.asked.history)) ∧
  ∀ table, session.source = .canned table → session.asked.history = session.history

theorem asksOnce (session : Session) : session.AsksOnce := by
  constructor
  · intro server remote
    unfold tokenAnswer answer asked lookUp
    rw [remote]
    rfl
  · intro table canned
    exact (lookUp_canned canned _ false false).1

/-- An answer that is of no use leaves a session without a token. -/
theorem provided_of_unusable {session : Session} (empty : session.token = none)
    (unusable : Token.Unusable session.tokenAnswer) :
    session.tokenToUse? = none ∧ session.provided = session.asked := by
  have useless := (Token.ofAnswer?_eq_none_iff _).mpr unusable
  unfold tokenToUse? provided
  rw [empty]
  refine ⟨useless, ?_⟩
  dsimp only
  rw [useless, ← empty]
  rfl

/-- A download that has no token, and gets none of use when it asks for one, is the plain download
that would be made once it has been asked: the same requests, the same outcome but for the number
of the file, the same body saved.  What is more is the question, made in one attempt, and a file
before that of the script, which stays empty. -/
theorem fallback_as_plain (session : Session) (url directory : String)
    (empty : session.token = none) (unusable : Token.Unusable session.tokenAnswer)
    (granted : session.area.fault? directory = none)
    (again : (session.area.withFile directory []).fault? directory = none) :
    let plain := session.asked.downloadPlain url directory
    let fallback := session.downloadAuthorized url directory
    let file := session.area.files.length
    (∃ outcome : Except Failure Unit,
      plain.1 = outcome.map (fun _ => file) ∧ fallback.1 = outcome.map (fun _ => file + 1)) ∧
    (∃ sent, fallback.2.history = session.asked.history ++ sent ∧
      ∀ exchange ∈ sent, exchange.request.IsPlain) ∧
    (∃ body log, plain.2.area = session.area.withFile directory body ∧
      fallback.2 = { plain.2 with
        area := (session.area.withFile directory []).withFile directory body, log := log }) ∧
    session.AsksOnce ∧
    fallback.2.queries =
      session.queries ++ [⟨some Token.metadataKey, false, false, session.tokenAnswer⟩] ∧
    fallback.2.token = none := by
  intro plain fallback file
  obtain ⟨useless, same⟩ := provided_of_unusable empty unusable
  obtain ⟨log, continued⟩ := downloadAuthorized_granted url granted
  rw [useless, equipped, same] at continued
  dsimp only at continued
  have askedGranted : session.asked.area.fault? directory = none := granted
  obtain ⟨⟨outcome, result, otherResult⟩, body, lines, saved, left⟩ :=
    downloadPlain_elsewhere url (session.area.withFile directory []) log askedGranted again
  rw [← continued] at otherResult left
  have course := session.asked.downloadPlain_course url directory
  have framed := course.frame
  obtain ⟨sent, grown, allPlain⟩ := course.plain
  have numbered : (session.area.withFile directory []).files.length = file + 1 := by simp [file]
  refine ⟨⟨outcome, result, ?_⟩, ⟨sent, ?_, allPlain⟩, ⟨body, lines, saved, left⟩,
    session.asksOnce, ?_, ?_⟩
  · rw [← numbered]
    exact otherResult
  · rw [left]
    exact grown
  · rw [left]
    exact congrArg Session.queries framed
  · rw [left]
    exact (congrArg Session.token framed).trans empty

/-! ## A table without a token -/

/-- A session without a token in a table, whose servers answer everything. -/
def tokenless : Session :=
  start "startup" .single (fun _ _ => .answer 200 [] [0x78] false) (.canned .empty) .tallied

theorem tokenless_plain :
    (tokenless.asked.downloadPlain "http://h/a" "d").1 = .ok 0 ∧
      (tokenless.asked.downloadPlain "http://h/a" "d").2.area =
        tokenless.area.withFile "d" [0x78] := by
  have granted : tokenless.asked.area.fault? "d" = none := rfl
  have sent : Http.send tokenless.asked.network true ⟨onHost ['a'], [], false⟩ [] =
      (.ok ⟨200, onHost ['a'], [], [0x78], false⟩,
        [⟨⟨onHost ['a'], [], false⟩, .answer 200 [] [0x78] false⟩]) := by
    unfold Http.send
    rw [if_pos (by decide), if_pos rfl, Http.redirectLimit,
      Http.follow_answered rfl rfl (by decide)]
    rfl
  have whole : Http.bodyOf ⟨200, onHost ['a'], [], [0x78], false⟩ = .ok [0x78] := rfl
  have written := tokenless.asked.area.write_withFile "d" [] [0x78]
  have fetched : Http.fetchToFile tokenless.asked.network "http://h/a"
      tokenless.asked.area.files.length ([], tokenless.asked.area.withFile "d" []) =
        (.ok (), [⟨⟨onHost ['a'], [], false⟩, .answer 200 [] [0x78] false⟩],
          tokenless.asked.area.withFile "d" [0x78]) := by
    simp only [Http.fetchToFile, Http.ofText_onHost, sent, whole, written]
  have run_eq : tokenless.asked.policy.run Failure.isTransient
      (Http.fetchToFile tokenless.asked.network "http://h/a" tokenless.asked.area.files.length)
      (tokenless.asked.history, tokenless.asked.area.withFile "d" []) = ⟨.ok (),
        ([⟨⟨onHost ['a'], [], false⟩, .answer 200 [] [0x78] false⟩],
          tokenless.asked.area.withFile "d" [0x78]), [.attempt]⟩ :=
    Retry.Policy.run_ok _ _ _ fetched
  obtain ⟨result, _, area⟩ := downloadPlain_granted "http://h/a" granted
  rw [run_eq] at result area
  exact ⟨result, area⟩

/-- The file that is reserved first stays empty, and the second one gets the script. -/
theorem tokenless_falls_back :
    let fallback := tokenless.downloadAuthorized "http://h/a" "d"
    fallback.1 = .ok 1 ∧ fallback.2.area.body? 0 = some [] ∧
      fallback.2.area.body? 1 = some [0x78] ∧ fallback.2.token = none := by
  dsimp only
  obtain ⟨plainResult, plainArea⟩ := tokenless_plain
  have absent : tokenless.tokenAnswer = .ok none := rfl
  have unusable : Token.Unusable tokenless.tokenAnswer := by
    rw [absent]
    trivial
  obtain ⟨⟨outcome, result, otherResult⟩, _, ⟨body, log, saved, left⟩, _, _, none⟩ :=
    tokenless.fallback_as_plain "http://h/a" "d" rfl unusable rfl rfl
  rw [plainResult] at result
  rw [plainArea] at saved
  have held := tokenless.area.body?_withFile "d" [0x78]
  rw [saved, Staging.Area.body?_withFile] at held
  obtain rfl := Option.some.inj held
  cases outcome with
  | error failure => cases result
  | ok done =>
      refine ⟨otherResult, ?_, ?_, none⟩
      · rw [left]
        rfl
      · rw [left]
        rfl

end Session
end InstanceScripts
