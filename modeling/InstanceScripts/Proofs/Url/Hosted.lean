import InstanceScripts.Http.Client

/-!
# Hosts of web URLs

A reference over which a request is sent always names a host: either it spells one out, or it is
read against a URL that has one.
-/

namespace InstanceScripts
namespace Url

namespace Reader

/-- A host that a scheme demands is there when it has been read. -/
theorem isSome_of_host {manner : Manner} {chars : List Char} {host : Option Host}
    (hosted : manner ≠ .general) (found : Reader.host manner chars = .ok host) :
    host.isSome = true := by
  unfold Reader.host at found
  rw [if_neg hosted] at found
  split at found
  · cases found
  · cases named : Host.readSpecial chars with
    | error fault =>
        rw [named] at found
        cases found
    | ok name =>
        rw [named] at found
        cases found
        rfl

/-- A URL has the scheme that it is read with, and a host if that scheme demands one. -/
def IsHosted (scheme : List Char) (url : Url) : Prop :=
  url.scheme = scheme ∧ (mannerOf scheme ≠ .general → url.host?.isSome = true)

theorem authority_hosted {scheme chars : List Char} {url : Url}
    (read : authority scheme chars = .ok url) : IsHosted scheme url := by
  unfold authority at read
  simp only [bind, Except.bind, pure, Except.pure, throw, throwThe, MonadExceptOf.throw] at read
  repeat' split at read
  -- Whatever is read behind the host, what has been found for the host stays.
  all_goals cases read
  all_goals exact ⟨rfl, fun hosted => isSome_of_host hosted ‹_›⟩

/-- A reference without a scheme keeps the host of its base or names another one. -/
theorem relative_hosted {base url : Url} {chars : List Char} (rooted : base.host?.isSome = true)
    (read : relative base chars = .ok url) : IsHosted base.scheme url := by
  have kept {other : Url} (scheme : other.scheme = base.scheme)
      (authority : other.authority = base.authority) : IsHosted base.scheme other := by
    refine ⟨scheme, fun _ => ?_⟩
    rwa [host?, authority]
  unfold relative at read
  dsimp only at read
  split at read
  · cases read
    exact kept rfl rfl
  · cases read
    exact kept rfl rfl
  · cases read
    exact kept rfl rfl
  · split at read
    · split at read
      · split at read
        · split at read
          · exact authority_hosted read
          · exact authority_hosted read
        · cases read
          exact kept rfl rfl
      · cases read
        exact kept rfl rfl
    · cases read
      exact kept rfl rfl

theorem file_scheme {chars : List Char} {url : Url} (read : file chars = .ok url) :
    url.scheme = "file".toList := by
  unfold file at read
  split at read
  · split at read
    · dsimp only at read
      split at read
      · cases read
        rfl
      · cases named : Host.readSpecial _ with
        | error fault =>
            rw [named] at read
            cases read
        | ok host =>
            rw [named] at read
            cases read
            dsimp only
            split <;> rfl
    · cases read
      rfl
  · cases read
    rfl

theorem rootless_scheme (scheme chars : List Char) : (rootless scheme chars).scheme = scheme := by
  unfold rootless
  split <;> rfl

end Reader

/-- A URL over which requests are sent has a host if the URL has one against which it is read. -/
theorem resolve_host {base url : Url} {reference : String} (rooted : base.host?.isSome = true)
    (resolved : resolve base reference = .ok url) (http : Http.isHttp url = true) :
    url.host?.isSome = true := by
  have special : Reader.mannerOf url.scheme = .special := by
    simp only [Http.isHttp, Bool.or_eq_true, beq_iff_eq] at http
    rcases http with named | named <;> rw [named] <;> decide
  have hosted {scheme : List Char} (read : Reader.IsHosted scheme url) :
      url.host?.isSome = true := by
    obtain ⟨rfl, demanded⟩ := read
    exact demanded (by rw [special]; decide)
  unfold resolve read at resolved
  dsimp only at resolved
  split at resolved
  · next scheme rest _ =>
      unfold Reader.withScheme at resolved
      split at resolved
      · rw [Reader.file_scheme resolved] at special
        exact absurd special (by decide)
      · dsimp only at resolved
        split at resolved
        · exact hosted (Reader.relative_hosted rooted resolved)
        · exact hosted (Reader.authority_hosted resolved)
      · next general =>
          split at resolved
          · exact hosted (Reader.authority_hosted resolved)
          · cases resolved
            rw [Reader.rootless_scheme, general] at special
            cases special
  · split at resolved
    · cases resolved
      exact rooted
    · cases resolved
    · exact hosted (Reader.relative_hosted rooted resolved)

end Url
end InstanceScripts
