import InstanceScripts.Proofs.Session.Relation

/-!
# Reports

What a session has reported has no influence on what it does.  Sessions that differ in their
reports only go the same way, and differ in their reports only afterwards.
-/

namespace InstanceScripts
namespace Session

/-- Two sessions that differ in nothing but what they have reported. -/
def Resembles (session other : Session) : Prop :=
  session = { other with log := session.log }

namespace Resembles

theorem refl (session : Session) : session.Resembles session := rfl

theorem trans {first second third : Session} (left : first.Resembles second)
    (right : second.Resembles third) : first.Resembles third := by
  rw [Resembles, left, right]

theorem symm {first second : Session} (same : first.Resembles second) :
    second.Resembles first := by
  rw [Resembles, same]

theorem report (session : Session) (lines : List Log.Line) :
    (session.report lines).Resembles session := rfl

/-- Reports have no influence on the answer to a question. -/
theorem lookUp {session other : Session} (same : session.Resembles other)
    (key : Option String) (recursive retry : Bool) :
    (session.lookUp key recursive retry).1 = (other.lookUp key recursive retry).1 ∧
      (session.lookUp key recursive retry).2.Resembles (other.lookUp key recursive retry).2 := by
  rw [same]
  exact ⟨rfl, rfl⟩

end Resembles

/-- What comes of an operation, and the session it leaves behind, are those of another
one, apart from reports. -/
def Agrees {α : Type} (left right : α × Session) : Prop :=
  left.1 = right.1 ∧ left.2.Resembles right.2

theorem fetchToken_agrees {session other : Session} (same : session.Resembles other) :
    Agrees session.fetchToken other.fetchToken := by
  rw [same]
  unfold fetchToken lookUp
  dsimp only
  rcases other.source.get other.network (some Token.metadataKey) false false other.history
    with ⟨failure | _ | answer, source, history⟩
  · exact ⟨rfl, rfl⟩
  · exact ⟨rfl, rfl⟩
  · exact ⟨rfl, rfl⟩

theorem obtainToken_agrees {session other : Session} (same : session.Resembles other) :
    Agrees session.obtainToken other.obtainToken := by
  have fetched := fetchToken_agrees same
  have held : session.token = other.token := by rw [same]
  unfold obtainToken
  rw [held]
  cases other.token with
  | some token => exact ⟨rfl, same⟩
  | none =>
      refine ⟨fetched.1, ?_⟩
      dsimp only
      rw [fetched.1, fetched.2]
      rfl

theorem Resembles.lockstep : Lockstep Resembles where
  area same := by rw [same]
  report same lines := by
    rw [same]
    rfl
  withArea same area := by
    rw [same]
    rfl
  withoutToken same := by
    rw [same]
    rfl
  obtained := obtainToken_agrees
  attempted same url file := by
    rw [same]
    exact ⟨rfl, rfl⟩
  presented same url token := by
    rw [same]
    exact ⟨rfl, rfl⟩

theorem downloadScript_agrees {session other : Session} (same : session.Resembles other)
    (url directory : String) :
    Agrees (session.downloadScript url directory) (other.downloadScript url directory) :=
  Resembles.lockstep.downloadScript same url directory

end Session
end InstanceScripts
