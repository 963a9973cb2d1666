import ProviderDocs.Proofs.Storage.Disk
import ProviderDocs.Publication

/-!
# Where documents are written

Writing documents changes nothing outside the places of the documents, but for directories that are
made where there was nothing (`staysWithin_writeDocuments`).  A document with a confined path has
its place below that of the root (`place_join`).
-/

namespace ProviderDocs

open Disk (place StaysWithin)

/-- A confined path leads on from the place of the root. -/
theorem place_join {path : Text} (h : Path.IsConfined path) (home : Location) (root : Text) :
    place home (Path.join root path) = place home root ++ Path.pieces path := by
  unfold place
  rw [Path.isAbsolute_join h.isAbsolute_eq_false, Path.walk_join h.isAbsolute_eq_false,
    Path.walk_of_isName h]

variable {home : Location} {p : Location → Prop} {root : Text}

theorem staysWithin_makeParent (path : Text) :
    StaysWithin home p (makeParent path : StateM Disk _) := by
  unfold makeParent
  split
  · exact .pure _
  · refine (StaysWithin.makeDirectoriesOf _).bind fun made => ?_
    split
    · exact .pure _
    · exact .pure _

theorem staysWithin_writeDocument {document : Document}
    (h : p (place home (Path.join root document.path))) :
    StaysWithin home p (writeDocument root document : StateM Disk _) := by
  refine (staysWithin_makeParent _).bind fun made => ?_
  split
  · exact .pure _
  · refine (StaysWithin.writeText h _).bind fun written => ?_
    split
    · exact .pure _
    · exact .pure _

/-- Writing documents changes the places of the documents. -/
theorem staysWithin_writeDocuments {documents : List Document}
    (h : ∀ document ∈ documents, p (place home (Path.join root document.path))) :
    StaysWithin home p (writeDocuments root documents : StateM Disk _) := by
  induction documents with
  | nil => exact .pure _
  | cons document rest ih =>
    refine (staysWithin_writeDocument (h document List.mem_cons_self)).bind fun written => ?_
    split
    · exact .pure _
    · refine (ih fun other ho => h other (List.mem_cons_of_mem _ ho)).bind fun written => .pure _

end ProviderDocs
