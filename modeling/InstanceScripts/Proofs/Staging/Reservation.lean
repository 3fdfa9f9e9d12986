import InstanceScripts.Staging
import Mathlib.Data.List.TakeWhile

/-!
# Reserved files

A reservation adds one file behind all others, and writing to that file leaves the others
alone.  Names that have not been given before make the paths of all files different.
-/

namespace InstanceScripts
namespace Staging
namespace Area

/-- The file that is reserved next in a directory, once it holds a body. -/
def nextFile (area : Area) (directory : String) (body : Octets) : File :=
  let parent := tidy (absolute area.current directory)
  ⟨parent, filePath parent (area.name area.files.length), body⟩

/-- The area in which the next file has been reserved in a directory and holds a body. -/
def withFile (area : Area) (directory : String) (body : Octets) : Area :=
  { area with files := area.files ++ [area.nextFile directory body] }

@[simp] theorem withFile_files (area : Area) (directory : String) (body : Octets) :
    (area.withFile directory body).files = area.files ++ [area.nextFile directory body] := rfl

@[simp] theorem withFile_name (area : Area) (directory : String) (body : Octets) :
    (area.withFile directory body).name = area.name := rfl

@[simp] theorem nextFile_body (area : Area) (directory : String) (body : Octets) :
    (area.nextFile directory body).body = body := rfl

theorem nextFile_path (area : Area) (directory : String) (body : Octets) :
    (area.nextFile directory body).path =
      filePath (tidy (absolute area.current directory)) (area.name area.files.length) := by
  simp only [nextFile]

/-- A directory in which no file can be made leaves the area as it is. -/
theorem reserve_refused
    {area : Area} {directory : String} {fault : PathFault}
    (refused : area.fault? directory = some fault) :
    ∃ reason, area.reserve directory = (.error (.io reason), area) := by
  simp [reserve, refused]

/-- A reservation gives the number of a new empty file. -/
theorem reserve_granted
    {area : Area} {directory : String} (granted : area.fault? directory = none) :
    area.reserve directory = (.ok area.files.length, area.withFile directory []) := by
  simp [reserve, granted, withFile, nextFile]

/-- Writing to the file reserved last replaces its body only. -/
theorem write_withFile (area : Area) (directory : String) (old body : Octets) :
    (area.withFile directory old).write area.files.length body =
      (.ok (), area.withFile directory body) := by
  have last : area.files.length < (area.withFile directory old).files.length := by simp
  have replaced (change : File → File) :
      (area.withFile directory old).files.modify area.files.length change =
        area.files ++ [change (area.nextFile directory old)] :=
    List.modifyTailIdx_add (List.modifyHead change) 0 area.files [area.nextFile directory old]
  unfold write
  rw [if_pos last, replaced]
  simp only [withFile, nextFile]

/-- Staging a script reserves a file for its text without the leading blanks. -/
theorem stage_granted
    {area : Area} {directory : String} (script : String)
    (granted : area.fault? directory = none) :
    area.stage directory script =
      (.ok area.files.length,
        area.withFile directory (Utf8.encode (Text.dropBlank script))) := by
  unfold stage
  rw [reserve_granted granted]
  simp only [write_withFile]

theorem stage_refused
    {area : Area} {directory : String} {fault : PathFault} (script : String)
    (refused : area.fault? directory = some fault) :
    ∃ reason, area.stage directory script = (.error (.io reason), area) := by
  obtain ⟨reason, same⟩ := reserve_refused refused
  exact ⟨reason, by unfold stage; rw [same]⟩

/-! ## Growth -/

/-- What an area becomes when files are reserved in it and filled, one after the other. -/
inductive Extends (area : Area) : Area → Prop
  | refl : area.Extends area
  | withFile {other : Area} (extended : area.Extends other) (directory : String)
      (body : Octets) : area.Extends (other.withFile directory body)

theorem Extends.trans {first second third : Area} (left : first.Extends second)
    (right : second.Extends third) : first.Extends third := by
  induction right with
  | refl => exact left
  | withFile extended directory body inductionHypothesis =>
      exact inductionHypothesis.withFile directory body

/-- Files that were there before stay as they are. -/
theorem Extends.files {area other : Area} (extended : area.Extends other) :
    ∃ new, other.files = area.files ++ new := by
  induction extended with
  | refl => exact ⟨[], by simp⟩
  | withFile extended directory body inductionHypothesis =>
      obtain ⟨new, grown⟩ := inductionHypothesis
      exact ⟨new ++ [_], by rw [withFile_files, grown, List.append_assoc]⟩

theorem Extends.body? {area other : Area} (extended : area.Extends other) {file : Nat}
    {body : Octets} (held : area.body? file = some body) : other.body? file = some body := by
  obtain ⟨new, grown⟩ := extended.files
  obtain ⟨reserved, found, same⟩ := Option.map_eq_some_iff.mp held
  obtain ⟨inside, _⟩ := List.getElem?_eq_some_iff.mp found
  rw [Area.body?, grown, List.getElem?_append_left inside, found]
  exact congrArg some same

/-! ## Scripts at hand -/

/-- A file holds a script without the blanks in front of it. -/
def HoldsTrimmed (area : Area) (file : Nat) (script : String) : Prop :=
  ∃ blanks rest, script.toList = blanks ++ rest ∧ (∀ char ∈ blanks, Text.isBlank char = true) ∧
    (∀ char, rest.head? = some char → Text.isBlank char = false) ∧
    area.body? file = some (Utf8.encodeChars rest)

/-- A script that is staged goes into a new file, without the blanks in front of it. -/
theorem stage_ok
    {area : Area} {directory script : String} {file : Nat}
    (staged : (area.stage directory script).1 = .ok file) :
    file = area.files.length ∧ (area.stage directory script).2.HoldsTrimmed file script := by
  cases free : area.fault? directory with
  | some fault =>
      obtain ⟨reason, refused⟩ := stage_refused script free
      rw [refused] at staged
      cases staged
  | none =>
      rw [stage_granted script free] at staged ⊢
      cases staged
      refine ⟨rfl, script.toList.takeWhile Text.isBlank, script.toList.dropWhile Text.isBlank,
        (List.takeWhile_append_dropWhile).symm, ?_, ?_, ?_⟩
      · exact fun char member => List.mem_takeWhile_imp member
      · intro char first
        have unblank := List.head?_dropWhile_not Text.isBlank script.toList
        rw [first] at unblank
        exact unblank
      · simp [Area.body?, Text.dropBlank, Utf8.encode]

theorem stage_extends (area : Area) (directory script : String) :
    area.Extends (area.stage directory script).2 := by
  cases free : area.fault? directory with
  | some fault =>
      obtain ⟨reason, refused⟩ := stage_refused script free
      rw [refused]
      exact .refl
  | none =>
      rw [stage_granted script free]
      exact Extends.refl.withFile directory _

theorem HoldsTrimmed.of_extends {area other : Area} {file : Nat} {script : String}
    (held : area.HoldsTrimmed file script) (extended : area.Extends other) :
    other.HoldsTrimmed file script := by
  obtain ⟨blanks, rest, split, blank, unblank, body⟩ := held
  exact ⟨blanks, rest, split, blank, unblank, extended.body? body⟩

/-! ## Different paths -/

/-- The path of a file ends in a slash and its name. -/
theorem filePath_toList (directory name : String) :
    ∃ front, (filePath directory name).toList = front ++ '/' :: name.toList := by
  unfold filePath
  by_cases rooted : directory.toList.getLast? = some '/'
  · obtain ⟨front, ends⟩ := List.getLast?_eq_some_iff.mp rooted
    rw [if_pos rooted, String.toList_append, ends]
    exact ⟨front, by rw [List.append_assoc, List.singleton_append]⟩
  · rw [if_neg rooted, String.toList_append, String.toList_append]
    exact ⟨directory.toList, List.append_assoc _ _ _⟩

/-- Files with different names have different paths, whatever their directories are. -/
theorem filePath_ne {name other : String} (directory elsewhere : String)
    (slashless : '/' ∉ name.toList) (alsoSlashless : '/' ∉ other.toList)
    (different : name ≠ other) : filePath directory name ≠ filePath elsewhere other := by
  intro same
  obtain ⟨front, spelled⟩ := filePath_toList directory name
  obtain ⟨otherFront, otherSpelled⟩ := filePath_toList elsewhere other
  rw [same, otherSpelled] at spelled
  have parts := congrArg (List.splitOn '/') spelled
  rw [List.splitOn_append_cons_self, List.splitOn_append_cons_self,
    List.splitOn_eq_singleton slashless, List.splitOn_eq_singleton alsoSlashless] at parts
  have names := (List.append_inj' parts rfl).2
  exact different (String.toList_inj.mp (List.singleton_inj.mp names)).symm

/-- The system gives fresh names: they differ from one another and from those of the files
that are there, and hold no slash. -/
structure FreshNames (area : Area) : Prop where
  distinct : ∀ first second, area.name first = area.name second → first = second
  slashless : ∀ number, '/' ∉ (area.name number).toList
  unused : ∀ file ∈ area.files, ∀ directory number, area.files.length ≤ number →
    file.path ≠ filePath directory (area.name number)
  apart : (area.files.map (·.path)).Nodup

theorem FreshNames.withFile {area : Area} (fresh : area.FreshNames) (directory : String)
    (body : Octets) : (area.withFile directory body).FreshNames := by
  refine ⟨fresh.distinct, fresh.slashless, ?_, ?_⟩
  · intro file member elsewhere number later
    rw [withFile_files, List.length_append, List.length_singleton] at later
    rcases List.mem_append.mp member with old | new
    · exact fresh.unused file old elsewhere number (by omega)
    · rw [List.mem_singleton.mp new, nextFile_path, withFile_name]
      refine filePath_ne _ _ (fresh.slashless _) (fresh.slashless _) ?_
      intro same
      have equal := fresh.distinct _ _ same
      omega
  · rw [withFile_files, List.map_append, List.map_singleton, List.nodup_append]
    refine ⟨fresh.apart, by simp, ?_⟩
    rintro path old other new rfl
    obtain ⟨file, member, rfl⟩ := List.mem_map.mp old
    rw [List.mem_singleton, nextFile_path] at new
    exact fresh.unused file member _ area.files.length (Nat.le_refl _) new

theorem FreshNames.of_extends {area other : Area} (fresh : area.FreshNames)
    (extended : area.Extends other) : other.FreshNames := by
  induction extended with
  | refl => exact fresh
  | withFile extended directory body inductionHypothesis =>
      exact inductionHypothesis.withFile directory body

/-- An area that refuses nothing, and in which the name of a file is as long as there are files
before it. -/
def tallied : Area :=
  ⟨"/", ⟨fun _ _ => none, fun _ => true⟩, fun number => String.ofList (List.replicate number 'x'), "", []⟩

theorem tallied_fresh : tallied.FreshNames := by
  refine ⟨?_, ?_, ?_, List.nodup_nil⟩
  · intro first second same
    have lengths := congrArg List.length (String.ofList_injective same)
    simpa using lengths
  · intro number member
    have letter := List.eq_of_mem_replicate (String.toList_ofList ▸ member)
    contradiction
  · intro file member
    cases member

end Area
end Staging
end InstanceScripts
