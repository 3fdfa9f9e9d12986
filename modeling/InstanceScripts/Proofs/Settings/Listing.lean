import InstanceScripts.Proofs.Settings.Precedence

/-!
# The listing of a directory

Drop-in files are sorted by their names, which are all different, before any of them is read.  So
it does not matter in which order they are listed, or what is listed among them that is no
drop-in file.
-/

namespace InstanceScripts
namespace Settings

/-- A list that is sorted by different names is the only one of its entries. -/
theorem SortedByName.unique {entries others : List (String × Entry)} (sorted : SortedByName entries)
    (otherSorted : SortedByName others) (distinct : (entries.map Prod.fst).Nodup)
    (same : others.Perm entries) : others = entries := by
  refine List.Perm.eq_of_pairwise ?_ otherSorted sorted same
  intro other entry otherMember member before behind
  have name : other.1 = entry.1 := String.le_antisymm before behind
  exact List.inj_on_of_nodup_map distinct (same.mem_iff.mp otherMember) member name

/-- The drop-in files are the same for every listing that holds them. -/
theorem dropInFiles_congr {entries others : List (String × Entry)}
    (distinct : (entries.map Prod.fst).Nodup)
    (same : (others.filter fun entry => IsDropInName entry.1).Perm
      (entries.filter fun entry => IsDropInName entry.1)) :
    dropInFiles others = dropInFiles entries := by
  refine SortedByName.unique (sortByName_sorted _) (sortByName_sorted _) ?_ ?_
  · have considered := (dropInFiles_perm entries).map Prod.fst
    exact considered.nodup_iff.mpr (distinct.sublist (List.filter_sublist.map Prod.fst))
  · exact (dropInFiles_perm others).trans (same.trans (dropInFiles_perm entries).symm)

/-- Neither the order in which drop-in files are listed nor what else is listed with them changes
what is loaded or what is logged. -/
theorem load_listing {entries : List (String × Entry)} (distinct : (entries.map Prod.fst).Nodup)
    (path : String) (main : Option Entry) :
    (∀ listed : List (String × Entry), listed.Perm entries →
      load ⟨path, main, .directory listed⟩ = load ⟨path, main, .directory entries⟩) ∧
    ∀ others : List (String × Entry),
      (others.filter fun entry => IsDropInName entry.1).Perm
          (entries.filter fun entry => IsDropInName entry.1) →
        load ⟨path, main, .directory others⟩ = load ⟨path, main, .directory entries⟩ := by
  -- Everything that is read of a listing is read of its sorted drop-in files.
  have others (others : List (String × Entry))
      (same : (others.filter fun entry => IsDropInName entry.1).Perm
        (entries.filter fun entry => IsDropInName entry.1)) :
      load ⟨path, main, .directory others⟩ = load ⟨path, main, .directory entries⟩ := by
    have read : readDropIns (dropInDirectory path) (.directory others) =
        readDropIns (dropInDirectory path) (.directory entries) := by
      simp only [readDropIns, dropInFiles_congr distinct same]
    simp only [load, documents, read]
  refine ⟨?_, others⟩
  intro listed reordered
  exact others listed (reordered.filter _)

/-- The file that cannot be read first is the first one by name, wherever it is listed. -/
theorem load_listing_reversed :
    let entries := [("a.cfg", Entry.file [255]), ("b.cfg", .directory)]
    let others := [(".cfg", patient), ("b.cfg", .directory), ("a.cfg.bak", .directory),
      ("a.cfg", .file [255]), ("cfg", .file [255])]
    load ⟨"c", none, .directory others⟩ = load ⟨"c", none, .directory entries⟩ ∧
      load ⟨"c", none, .directory entries.reverse⟩ = (.error (.io .notText), []) := by
  intro entries others
  have distinct : (entries.map Prod.fst).Nodup := by decide
  obtain ⟨reordered, extended⟩ := load_listing distinct "c" none
  have same : (others.filter fun entry => IsDropInName entry.1).Perm
      (entries.filter fun entry => IsDropInName entry.1) := by
    rw [← filter_isDropInName, ← filter_isDropInName]
    exact .swap ("a.cfg", Entry.file [255]) ("b.cfg", Entry.directory) []
  refine ⟨extended others same, ?_⟩
  rw [reordered entries.reverse (List.reverse_perm entries)]
  rfl

end Settings
end InstanceScripts
