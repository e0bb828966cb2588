import KnowledgeGraph.Domain.Request
import KnowledgeGraph.Person.Request
import KnowledgeGraph.Proofs.Wire.Shape
import KnowledgeGraph.Relationship.Request
import KnowledgeGraph.Token.Claims

/-!
# Records that come back

A record whose layout is exact, and of which nothing is lost on the way to its fields and back, is
read back from the text that is written of it. So are all records without floats that the service
both reads and writes, however deeply their parts are nested.
-/

namespace KnowledgeGraph.Wire

-- ---------------------------------------------------------------------------
-- Texts and fields
-- ---------------------------------------------------------------------------

/-- The text that is written of a record is read as that record. -/
def ReadsBack (α : Type) [Writable α] : Prop :=
  ∀ a : α, (Document.ofText (toJson a).text).readAs α = .ok a

/-- Nothing of a record is lost on the way to its fields and back. -/
def Lossless (α : Type) [Writable α] : Prop :=
  ∀ a : α, Readable.ofMeaning (Writable.toMeaning a) = a

section
variable {α : Type} [Writable α]

theorem Lossless.list (h : Lossless α) (as : List α) :
    (as.map Writable.toMeaning).map Readable.ofMeaning = as := by
  rw [List.map_map]
  exact (List.map_congr_left fun a _ => h a).trans (List.map_id as)

theorem Lossless.option (h : Lossless α) (a? : Option α) :
    (a?.map Writable.toMeaning).map Readable.ofMeaning = a? := by
  cases a? with
  | none => rfl
  | some a => exact congrArg some (h a)

theorem Lossless.readsBack (h : Lossless α) (hexact : (Readable.fields α).isExact = true)
    (hdepth : (Readable.fields α).depth < maxDepth) : ReadsBack α := by
  intro a
  have htext := Document.ofText_text (isIntegral_toJson hexact a)
  have hread := ofJson_toJson hexact hdepth a
  rw [h a] at hread
  rw [Document.readAs, htext, Document.read, hread]
  rfl

end

-- ---------------------------------------------------------------------------
-- Domains
-- ---------------------------------------------------------------------------

open Domain

theorem lossless_newNode : Lossless NewNode := fun _ => rfl

theorem lossless_knowledge : Lossless KnowledgeRequirement := by
  rintro ⟨id, node, level⟩
  exact congrArg (KnowledgeRequirement.mk id · level) (lossless_newNode.option node)

theorem lossless_skill : Lossless SkillRequirement := by
  rintro ⟨id, node, level⟩
  exact congrArg (SkillRequirement.mk id · level) (lossless_newNode.option node)

theorem lossless_trait : Lossless TraitRequirement := by
  rintro ⟨id, node, score⟩
  exact congrArg (TraitRequirement.mk id · score) (lossless_newNode.option node)

theorem lossless_milestone : Lossless MilestoneRequirement := by
  rintro ⟨id, node⟩
  exact congrArg (MilestoneRequirement.mk id) (lossless_newNode.option node)

theorem lossless_requirements : Lossless Requirements := by
  rintro ⟨knowledge, skills, traits, milestones⟩
  have hknowledge := lossless_knowledge.list knowledge
  have hskills := lossless_skill.list skills
  have htraits := lossless_trait.list traits
  have hmilestones := lossless_milestone.list milestones
  simp only [Readable.ofMeaning, Writable.toMeaning] at *
  rw [hknowledge, hskills, htraits, hmilestones]

theorem lossless_level : Lossless Level := by
  rintro ⟨level, name, description, points, requirements⟩
  exact congrArg (Level.mk level name description points) (lossless_requirements requirements)

theorem lossless_written : Lossless Written := by
  rintro ⟨success, domain, created, affected⟩
  have hcreated : Lossless CreatedNode := fun _ => rfl
  exact congrArg (Written.mk success domain · affected) (hcreated.list created)

-- ---------------------------------------------------------------------------
-- All records
-- ---------------------------------------------------------------------------

/-- Whatever texts, integers, lists and options a record holds, it comes back from its text. -/
theorem records_come_back :
    ReadsBack Person.Token ∧ ReadsBack NewNode ∧ ReadsBack Requirements ∧ ReadsBack Level ∧
      ReadsBack Info ∧ ReadsBack Written ∧ ReadsBack NameAvailability ∧
      ReadsBack Relationship.Deleted ∧ ReadsBack Token.Claims := by
  have htoken : Lossless Person.Token := fun _ => rfl
  have hinfo : Lossless Info := fun _ => rfl
  have havailability : Lossless NameAvailability := fun _ => rfl
  have hdeleted : Lossless Relationship.Deleted := fun _ => rfl
  have hclaims : Lossless Token.Claims := fun _ => rfl
  refine ⟨?_, ?_, ?_, ?_, ?_, ?_, ?_, ?_, ?_⟩
  · exact htoken.readsBack (by decide) (by decide)
  · exact lossless_newNode.readsBack (by decide) (by decide)
  · exact lossless_requirements.readsBack (by decide) (by decide)
  · exact lossless_level.readsBack (by decide) (by decide)
  · exact hinfo.readsBack (by decide) (by decide)
  · exact lossless_written.readsBack (by decide) (by decide)
  · exact havailability.readsBack (by decide) (by decide)
  · exact hdeleted.readsBack (by decide) (by decide)
  · exact hclaims.readsBack (by decide) (by decide)

end KnowledgeGraph.Wire
