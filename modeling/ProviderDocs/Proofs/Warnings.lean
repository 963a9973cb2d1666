import Mathlib.Tactic.SplitIfs
import ProviderDocs.Page.Landing
import ProviderDocs.Proofs.Report
import ProviderDocs.Proofs.Schema.Reach
import ProviderDocs.Site

/-!
# The warnings of pages

The pages of a provider are made one after the other, and each adds its warnings to those collected
before, which have no other say in it.  None of these warnings is about the product listing
(`collects_entityDocuments`, `collects_landingPage`).
-/

namespace ProviderDocs

/-- A warning is about a page, not about the product listing. -/
def Warning.OnPage (warning : Warning) : Prop :=
  ∀ name, warning ≠ .unknownListing name

open Warning (OnPage)
open Report (Collects)

/-! ### Schemas -/

variable {subject : Subject}

theorem collects_documentArgument (name : Text) (field : Field) :
    (documentArgument subject name field).Collects OnPage := by
  have warnings : ∀ warning ∈ argumentWarnings subject name field, warning.OnPage := by
    intro warning hw
    unfold argumentWarnings at hw
    rcases List.mem_append.mp hw with hw | hw
    · split_ifs at hw <;> simp_all [OnPage]
    · split_ifs at hw <;> simp_all [OnPage]
  exact (Collects.forM_warn warnings).bind fun _ => .pure _

/-- If this is known of the objects below a field, it is known of the sections of the field. -/
theorem collects_sections_of {field : Field}
    (h : ∀ inner, field.nested? = some inner →
      ∀ depth name, (argumentLists subject depth name inner).Collects OnPage)
    (depth : Nat) (parent : Option Text) (name : Text) :
    (sections subject depth parent name field).Collects OnPage := by
  cases hn : field.nested? with
  | none =>
    rw [sections_of_nested?_eq_none hn]
    exact .pure _
  | some inner =>
    rw [sections_of_nested?_eq_some hn]
    exact (h inner hn depth name).bind fun _ => .pure _

theorem collects_argumentLists (object : Object) :
    ∀ depth name, (argumentLists subject depth name object).Collects OnPage := by
  induction object using Object.induction with
  | h object inner =>
    intro depth name
    -- The outer induction is for what lies below the fields, this one goes through the fields.
    induction object with
    | nil =>
      rw [argumentLists]
      exact .pure _
    | cons entry rest ih =>
      obtain ⟨child, field⟩ := entry
      have ih := ih fun name field object hm => inner name field object (List.mem_cons_of_mem _ hm)
      have below := collects_sections_of (inner child field · List.mem_cons_self) (depth + 1)
        (some name) child
      rw [argumentLists]
      refine (Collects.ofExcept _).bind fun _ => ?_
      split_ifs
      · exact (collects_documentArgument child field).bind fun _ =>
          below.bind fun _ => ih.bind fun _ => .pure _
      · exact ih

theorem collects_classifyFields (schema : Object) :
    (classifyFields subject schema).Collects OnPage := by
  induction schema with
  | nil =>
    rw [classifyFields]
    exact .pure _
  | cons entry rest ih =>
    obtain ⟨name, field⟩ := entry
    have below : (sections subject 0 none name field).Collects OnPage :=
      collects_sections_of (fun inner _ => collects_argumentLists inner) 0 none name
    rw [classifyFields]
    refine (Collects.ofExcept _).bind fun _ => ?_
    split_ifs
    · exact below.bind fun _ => (collects_documentArgument name field).bind fun _ =>
        ih.bind fun _ => .pure _
    · exact (Collects.ofExcept _).bind fun _ => ih.bind fun _ => .pure _
    · exact ih

theorem collects_classify (schema : Object) : (classify subject schema).Collects OnPage :=
  (collects_classifyFields schema).bind fun _ => .pure _

/-! ### Pages -/

theorem collects_readExamples (entity : Text) (requireCode : Bool) (t : Text) :
    (readExamples entity requireCode t).Collects OnPage := by
  have trailing : (warn (.trailingProse entity)).Collects OnPage :=
    .warn fun _ => Warning.noConfusion
  unfold readExamples
  split
  · exact .throw _
  · dsimp only
    split_ifs
    · exact trailing.bind fun _ => .throw_bind _ _
    · exact trailing.bind fun _ => .pure _
    · exact .throw_bind _ _
    · exact .pure _

variable {provider : Provider}

theorem Entity.collects_content (entity : Entity) : entity.content.Collects OnPage := by
  unfold content
  dsimp only
  split
  · exact .throw_bind _ _
  · split
    · exact .throw _
    · exact (collects_readExamples _ _ _).bind fun _ => (collects_classify _).bind fun _ => .pure _

theorem Entity.collects_page (entity : Entity) : (entity.page provider).Collects OnPage :=
  entity.collects_content.bind fun _ => .pure _

theorem Entity.collects_document (entity : Entity) :
    (entity.document provider).Collects OnPage :=
  entity.collects_page.bind fun _ => .pure _

theorem collects_entityDocuments (entries : List ListedEntity) (sources : List NamedSource) :
    (entityDocuments provider entries sources).Collects OnPage := by
  induction sources with
  | nil => exact .pure _
  | cons source rest ih =>
    rw [entityDocuments]
    cases source.entity? entries with
    | none => exact .throw _
    | some entity => exact entity.collects_document.bind fun _ => ih.bind fun _ => .pure _

theorem collects_landingPage (products : List Product) :
    (landingPage provider products).Collects OnPage := by
  unfold landingPage
  dsimp only
  split
  · exact (collects_readExamples _ _ _).bind fun _ => (collects_classify _).bind fun _ => .pure _
  · exact (Collects.pure _).bind fun _ => (collects_classify _).bind fun _ => .pure _

end ProviderDocs
