import KnowledgeGraph.Domain.Statement
import KnowledgeGraph.Node.Statement
import KnowledgeGraph.Person.Statement
import KnowledgeGraph.Proofs.Domain.Demands
import KnowledgeGraph.Proofs.Graph.Placeholders
import KnowledgeGraph.Relationship.Statement

/-!
# Values are only bound

For every statement that the service can send: its text refers to exactly the parameters that
are bound, and does not change with the values that are bound to them.
-/

namespace KnowledgeGraph.Graph

open Domain (Level NewNode Requirement RequirementKind Requirements gradeKey_of_mem_entries)

-- ---------------------------------------------------------------------------
-- Statements and what they are built from
-- ---------------------------------------------------------------------------

/-- What a statement is built from. A link is made for one of the requirements of a level. -/
inductive Source where
  | matching (labels : List String) (filters : Json.Members) (depth : Nat)
  | nearest (index : String) (embedding : List Binary64) (depth : Nat)
  | similarToNode (index nodeId : String) (limit : Nat)
  | similarToEmbedding (index : String) (embedding : List Binary64) (limit : Nat)
  | createNode (labels : List String) (properties : Json.Members)
  | updateNode (targetId : String) (labels : List String) (properties : Option Json.Members)
  | search (text : String) (labels : List String) (limit : Nat)
  | createRelationship (sourceId targetId type : String) (properties : Json.Members)
  | retype (targetId type : String) (properties : Option Json.Members)
  | replaceProperties (targetId : String) (properties : Json.Members)
  | deleteRelationship (relationshipId : String)
  | domainByName (name : String)
  | domainIdByName (name : String)
  | domainNameById (domainId : String)
  | createDomain (name description : String)
  | renameDomain (domainId name description : String)
  | deleteLevels (domainId : String)
  | deleteProgress (nodeIds : List String)
  | createLevel (domainId : String) (level : Level)
  | mergeNode (kind : RequirementKind) (node : NewNode)
  | link (levelId nodeId : String) (requirements : Requirements) (r : Requirement)
      (h : r ∈ requirements.entries)
  | profile (username : String)
  | holders (username phone : String)
  | createPerson (username passwordHash phone : String)
  | passwordOf (username : String)

def Source.statement : Source → Except Error Statement
  | .matching labels filters depth => Node.matching labels filters depth
  | .nearest index embedding depth => .ok (Node.nearest index embedding depth)
  | .similarToNode index nodeId limit => .ok (Node.similarToNode index nodeId limit)
  | .similarToEmbedding index embedding limit =>
    .ok (Node.similarToEmbedding index embedding limit)
  | .createNode labels properties => Node.create labels properties
  | .updateNode targetId labels properties => Node.update targetId labels properties
  | .search text labels limit => .ok (Node.search text labels limit)
  | .createRelationship sourceId targetId type properties =>
    Relationship.create sourceId targetId type properties
  | .retype targetId type properties => Relationship.retype targetId type properties
  | .replaceProperties targetId properties =>
    .ok (Relationship.replaceProperties targetId properties)
  | .deleteRelationship relationshipId => .ok (Relationship.delete relationshipId)
  | .domainByName name => .ok (Domain.byName name)
  | .domainIdByName name => .ok (Domain.idByName name)
  | .domainNameById domainId => .ok (Domain.nameById domainId)
  | .createDomain name description => .ok (Domain.create name description)
  | .renameDomain domainId name description => .ok (Domain.rename domainId name description)
  | .deleteLevels domainId => .ok (Domain.deleteLevels domainId)
  | .deleteProgress nodeIds => .ok (Domain.deleteProgress nodeIds)
  | .createLevel domainId level => .ok (Domain.createLevel domainId level)
  | .mergeNode kind node => .ok (Domain.mergeNode kind node)
  | .link levelId nodeId _ r _ => .ok (Domain.link levelId nodeId r)
  | .profile username => .ok (Person.profile username)
  | .holders username phone => .ok (Person.holders username phone)
  | .createPerson username passwordHash phone =>
    .ok (Person.create username passwordHash phone)
  | .passwordOf username => .ok (Person.passwordOf username)

/-- Two sources of one kind that agree on identifiers, on how far relationships are followed and
on which optional parts there are. The values may differ in any way. -/
inductive Alike : Source → Source → Prop
  | matching : filters.map (·.1) = filters'.map (·.1) →
      Alike (.matching labels filters depth) (.matching labels filters' depth)
  | nearest : Alike (.nearest index embedding depth) (.nearest index' embedding' depth)
  | similarToNode : Alike (.similarToNode index nodeId limit) (.similarToNode index' nodeId' limit')
  | similarToEmbedding :
      Alike (.similarToEmbedding index embedding limit)
        (.similarToEmbedding index' embedding' limit')
  | createNode : Alike (.createNode labels properties) (.createNode labels properties')
  | updateNode : properties.isSome = properties'.isSome →
      Alike (.updateNode targetId labels properties) (.updateNode targetId' labels properties')
  | search : Alike (.search text labels limit) (.search text' labels' limit')
  | createRelationship :
      Alike (.createRelationship sourceId targetId type properties)
        (.createRelationship sourceId' targetId' type properties')
  | retype : Alike (.retype targetId type properties) (.retype targetId' type properties')
  | replaceProperties :
      Alike (.replaceProperties targetId properties) (.replaceProperties targetId' properties')
  | deleteRelationship :
      Alike (.deleteRelationship relationshipId) (.deleteRelationship relationshipId')
  | domainByName : Alike (.domainByName name) (.domainByName name')
  | domainIdByName : Alike (.domainIdByName name) (.domainIdByName name')
  | domainNameById : Alike (.domainNameById domainId) (.domainNameById domainId')
  | createDomain : Alike (.createDomain name description) (.createDomain name' description')
  | renameDomain :
      Alike (.renameDomain domainId name description) (.renameDomain domainId' name' description')
  | deleteLevels : Alike (.deleteLevels domainId) (.deleteLevels domainId')
  | deleteProgress : Alike (.deleteProgress nodeIds) (.deleteProgress nodeIds')
  | createLevel : Alike (.createLevel domainId level) (.createLevel domainId' level')
  | mergeNode : (node.guidance kind).isSome = (node'.guidance kind).isSome →
      Alike (.mergeNode kind node) (.mergeNode kind node')
  | link : r.kind = r'.kind → r.grade.map (·.1) = r'.grade.map (·.1) →
      Alike (.link levelId nodeId requirements r h) (.link levelId' nodeId' requirements' r' h')
  | profile : Alike (.profile username) (.profile username')
  | holders : Alike (.holders username phone) (.holders username' phone')
  | createPerson :
      Alike (.createPerson username passwordHash phone)
        (.createPerson username' passwordHash' phone')
  | passwordOf : Alike (.passwordOf username) (.passwordOf username')

-- ---------------------------------------------------------------------------
-- Values do not show in a text
-- ---------------------------------------------------------------------------

theorem map_bind_congr {x : Except ε α} {f g : α → Except ε β} {t : β → γ}
    (h : ∀ a, (f a).map t = (g a).map t) : (x >>= f).map t = (x >>= g).map t := by
  cases x with
  | error e => rfl
  | ok a => exact h a

theorem text_link_eq {r r' : Requirement} (hk : r.kind = r'.kind)
    (hg : r.grade.map (·.1) = r'.grade.map (·.1)) :
    (Domain.link levelId nodeId r).text = (Domain.link levelId' nodeId' r').text := by
  simp only [Domain.link, Statement.ofLines, hk]
  cases hr : r.grade with
  | none =>
    have hr' : r'.grade = none := by simpa [hr] using hg.symm
    rw [hr']
  | some grade =>
    obtain ⟨key, value⟩ := grade
    obtain ⟨value', hr'⟩ : ∃ value', r'.grade = some (key, value') := by
      simpa [hr] using hg.symm
    rw [hr']

theorem text_eq_of_alike (h : Alike source other) :
    source.statement.map (·.text) = other.statement.map (·.text) := by
  cases h with
  | matching hk =>
    simp only [Source.statement, Node.matching, hk]
    exact map_bind_congr fun _ => map_bind_congr fun _ => rfl
  | createNode => exact map_bind_congr fun _ => rfl
  | updateNode hp =>
    simp only [Source.statement, Node.update, hp]
    exact map_bind_congr fun _ => rfl
  | createRelationship => exact map_bind_congr fun _ => rfl
  | retype => exact map_bind_congr fun _ => rfl
  | mergeNode hg =>
    simp only [Source.statement, Except.map, Domain.mergeNode, Statement.ofLines, hg]
  | link hk hg => exact congrArg Except.ok (text_link_eq hk hg)
  | _ => rfl

-- ---------------------------------------------------------------------------
-- Filters
-- ---------------------------------------------------------------------------

theorem refersTo_param (h : ∀ c ∈ name.toList, isNameChar c = true) :
    RefersTo ('$' :: name.toList) [name] := by
  have hplain : RefersTo name.toList [] := by
    apply refersTo_nil_of_plain
    intro c hc
    constructor <;> rintro rfl <;> exact absurd (h _ hc) (by decide)
  have htake : (name.toList ++ []).takeWhile isNameChar = name.toList ++ [] :=
    List.takeWhile_append_of_pos h
  rw [List.append_nil] at htake
  refine ⟨hplain.1, ?_⟩
  rw [placeholders, if_pos ⟨rfl, rfl⟩, htake, hplain.2, String.ofList_toList]

theorem forall_mem_filterParam (index : Nat) :
    ∀ c ∈ (Node.filterParam index).toList, isNameChar c = true := by
  intro c hc
  rw [Node.filterParam, String.toList_append, List.mem_append] at hc
  rcases hc with hc | hc
  · exact List.all_eq_true.mp (show "prop_".toList.all isNameChar by decide) c hc
  · simp [isNameChar, Char.isAlphanum, isDigit_of_mem_repr hc]

theorem refersTo_filterParam (index : Nat) :
    RefersTo ('$' :: (Node.filterParam index).toList) [Node.filterParam index] :=
  refersTo_param (forall_mem_filterParam index)

theorem refersTo_condition (h : Node.condition index key = .ok text) :
    RefersTo text.toList [Node.filterParam index] := by
  have hparam := refersTo_filterParam index
  simp only [Node.condition] at h
  split at h
  · obtain rfl := pure_eq_ok_iff.mp h
    have hlead : RefersTo "elementId(node) = ".toList [] := by decide
    have hcs : ("elementId(node) = $" ++ Node.filterParam index).toList =
        "elementId(node) = ".toList ++ '$' :: (Node.filterParam index).toList := by
      simp [String.toList_append]
    rw [hcs]
    exact hlead.append hparam (.inl rfl)
  · obtain ⟨quoted, hq, h⟩ := bind_eq_ok_iff.mp h
    obtain rfl := pure_eq_ok_iff.mp h
    have hlead : RefersTo "node.".toList [] := by decide
    have heq : RefersTo " = ".toList [] := by decide
    have hcs : ("node." ++ quoted ++ " = $" ++ Node.filterParam index).toList =
        "node.".toList ++ (quoted.toList ++ (" = ".toList ++ '$' ::
          (Node.filterParam index).toList)) := by
      simp [String.toList_append]
    rw [hcs]
    exact hlead.append ((refersTo_quote hq).append (heq.append hparam (.inl rfl)) (.inl rfl))
      (.inl rfl)

theorem piecesReferTo_conditions (h : Node.conditions start keys = .ok conds) :
    PiecesReferTo (conds.map String.toList)
      ((List.range' start keys.length).map Node.filterParam) := by
  induction keys generalizing start conds with
  | nil =>
    obtain rfl : [] = conds := by simpa [Node.conditions] using h
    exact ⟨by simp, rfl⟩
  | cons key keys ih =>
    simp only [Node.conditions, bind_eq_ok_iff, pure_eq_ok_iff] at h
    obtain ⟨first, hf, rest, hr, rfl⟩ := h
    exact .cons (refersTo_condition hf) (ih hr)

theorem keys_zipIdx (filters : Json.Members) (start : Nat) :
    ((filters.zipIdx start).map fun ((_, v), i) => (Node.filterParam i, v)).map (·.1) =
      (List.range' start filters.length).map Node.filterParam := by
  induction filters generalizing start with
  | nil => rfl
  | cons filter filters ih => simp [List.range'_succ, ← ih]

-- ---------------------------------------------------------------------------
-- Lines that statements share
-- ---------------------------------------------------------------------------

section
-- Fixed texts are read character by character.
set_option maxRecDepth 20000

/-- Following relationships refers to nothing, however far it goes. -/
theorem piecesReferTo_expansion (depth : Nat) :
    PiecesReferTo ((expansion depth).map String.toList) [] := by
  have hfirst : RefersTo ("OPTIONAL MATCH (node)-[r*1.." ++ Nat.repr depth ++ "]->(m)").toList [] :=
    refersTo_around (by decide) (refersTo_repr depth) (by decide)
  have hrest : PiecesReferTo ((expansion depth).tail.map String.toList) [] := by
    unfold expansion nodeProjection relationshipProjection braced
    simp only [List.tail_cons, List.map_cons, List.map_nil, String.toList_append]
    repeat rw [String.toList_ofList]
    decide
  exact .cons hfirst hrest

theorem refersTo_returnedNode :
    RefersTo ("RETURN " ++ nodeProjection "n" ++ " AS node").toList [] := by
  unfold nodeProjection braced
  simp only [String.toList_append]
  repeat rw [String.toList_ofList]
  decide

theorem refersTo_returnedRelationship (hv : var = "r" ∨ var = "nr") :
    RefersTo ("RETURN " ++ relationshipProjection var ++ " AS relationship").toList [] := by
  unfold relationshipProjection braced
  simp only [String.toList_append]
  rcases hv with rfl | rfl <;> repeat rw [String.toList_ofList]
  · decide
  · decide

-- ---------------------------------------------------------------------------
-- Statements with identifiers or numbers in them
-- ---------------------------------------------------------------------------

theorem piecesReferTo_where (h : Node.conditions start keys = .ok conds) :
    PiecesReferTo
      ((if conds.isEmpty then [] else ["WHERE " ++ " AND ".intercalate conds]).map String.toList)
      ((List.range' start keys.length).map Node.filterParam) := by
  have hconds := piecesReferTo_conditions h
  split
  · next hn =>
    rw [List.isEmpty_iff.mp hn] at hconds
    exact hconds
  · have hlead : RefersTo "WHERE ".toList [] := by decide
    have hand : RefersTo " AND ".toList [] := by decide
    have hjoined := hconds.intercalate hand (by decide) (by decide)
    have hline := (hlead.append hjoined (.inl rfl)).piece
    rwa [← String.toList_intercalate, ← String.toList_append] at hline

theorem bound_matching (h : Node.matching labels filters depth = .ok s) : s.Bound := by
  simp only [Node.matching, bind_eq_ok_iff, pure_eq_ok_iff] at h
  obtain ⟨conds, hc, expression, he, rfl⟩ := h
  have hlabels : RefersTo ("MATCH (node" ++ expression ++ ")").toList [] :=
    refersTo_around (by decide) (refersTo_labelExpression he) (by decide)
  have hlines := (hlabels.piece.append (piecesReferTo_where hc)).append
    (piecesReferTo_expansion depth)
  rw [List.length_map, List.nil_append, List.append_nil] at hlines
  rw [← List.map_singleton, ← List.map_append, ← List.map_append] at hlines
  refine bound_ofLines hlines fun name => ?_
  rw [keys_zipIdx]

theorem bound_nearest (index : String) (embedding : List Binary64) (depth : Nat) :
    (Node.nearest index embedding depth).Bound := by
  have hcall : PiecesReferTo (["CALL db.index.vector.queryNodes($index, 1, $embedding)",
      "YIELD node, score"].map String.toList) ["index", "embedding"] := by decide
  have hlines := hcall.append (piecesReferTo_expansion depth)
  rw [← List.map_append] at hlines
  exact bound_ofLines hlines (by simp)

theorem bound_profile (username : String) : (Person.profile username).Bound := by
  have hperson : PiecesReferTo (["MATCH (node:Person)",
      "WHERE node.username = $username"].map String.toList) ["username"] := by decide
  have hlines := hperson.append (piecesReferTo_expansion 1)
  rw [← List.map_append] at hlines
  exact bound_ofLines hlines (by simp)

theorem bound_createNode (h : Node.create labels properties = .ok s) : s.Bound := by
  simp only [Node.create, bind_eq_ok_iff, pure_eq_ok_iff] at h
  obtain ⟨expression, he, rfl⟩ := h
  have hcreate : RefersTo ("CREATE (n" ++ expression ++ ")").toList [] :=
    refersTo_around (by decide) (refersTo_labelExpression he) (by decide)
  have hset : RefersTo "SET n = $properties".toList ["properties"] := by decide
  exact bound_ofLines (hcreate.piece.append (hset.piece.append refersTo_returnedNode.piece))
    (by simp)

theorem bound_updateNode (h : Node.update targetId labels properties = .ok s) : s.Bound := by
  simp only [Node.update, bind_eq_ok_iff, pure_eq_ok_iff] at h
  obtain ⟨expression, he, rfl⟩ := h
  have hmatch : PiecesReferTo (["MATCH (n)", "WHERE elementId(n) = $targetId"].map String.toList)
      ["targetId"] := by decide
  have hlabels : PiecesReferTo
      ((if labels.isEmpty then [] else ["SET n" ++ expression]).map String.toList) [] := by
    split
    · exact .nil
    · have hset : RefersTo "SET n".toList [] := by decide
      have hline := (hset.append (refersTo_labelExpression he) (.inl rfl)).piece
      rwa [← String.toList_append] at hline
  have hreturn := refersTo_returnedNode.piece
  cases properties with
  | none =>
    have hlines := (hmatch.append hlabels).append hreturn
    exact bound_ofLines (by simpa using hlines) (by simp)
  | some properties =>
    have hset : PiecesReferTo (["SET n += $properties"].map String.toList) ["properties"] := by
      decide
    have hlines := ((hmatch.append hlabels).append hset).append hreturn
    exact bound_ofLines (by simpa using hlines) (by simp)

theorem bound_createRelationship
    (h : Relationship.create sourceId targetId type properties = .ok s) : s.Bound := by
  simp only [Relationship.create, bind_eq_ok_iff, pure_eq_ok_iff] at h
  obtain ⟨quoted, hq, rfl⟩ := h
  have hends : PiecesReferTo (["MATCH (a)", "WHERE elementId(a) = $sourceId", "MATCH (b)",
      "WHERE elementId(b) = $targetId"].map String.toList) ["sourceId", "targetId"] := by
    decide
  have hcreate : RefersTo ("CREATE (a)-[r:" ++ quoted ++ " $properties]->(b)").toList
      ["properties"] := refersTo_around (by decide) (refersTo_quote hq) (by decide)
  have hreturn := refersTo_returnedRelationship (.inl rfl)
  exact bound_ofLines (hends.append (hcreate.piece.append hreturn.piece)) (by simp)

theorem bound_retype (h : Relationship.retype targetId type properties = .ok s) : s.Bound := by
  simp only [Relationship.retype, bind_eq_ok_iff, pure_eq_ok_iff] at h
  obtain ⟨quoted, hq, rfl⟩ := h
  have hmatch : PiecesReferTo (["MATCH (a)-[r]->(b)",
      "WHERE elementId(r) = $targetId"].map String.toList) ["targetId"] := by decide
  have hcreate : RefersTo ("CREATE (a)-[nr:" ++ quoted ++ "]->(b)").toList [] :=
    refersTo_around (by decide) (refersTo_quote hq) (by decide)
  have hset : PiecesReferTo (["SET nr = coalesce($properties, properties(r))",
      "DELETE r"].map String.toList) ["properties"] := by decide
  have hreturn := refersTo_returnedRelationship (.inr rfl)
  exact bound_ofLines (hmatch.append (hcreate.piece.append (hset.append hreturn.piece)))
    (by simp)

-- ---------------------------------------------------------------------------
-- Statements with a fixed text
-- ---------------------------------------------------------------------------

theorem bound_mergeNode (kind : RequirementKind) (node : NewNode) :
    (Domain.mergeNode kind node).Bound := by
  unfold Domain.mergeNode braced
  cases node.guidance kind with
  | none =>
    refine bound_ofLines_of_subset ?_
    simp only [List.map_cons, List.map_nil, Option.map_none, Option.toList_none, List.append_nil]
    rw [if_neg (by simp)]
    simp only [String.toList_append]
    cases kind <;> unfold RequirementKind.label <;> repeat rw [String.toList_ofList]
    all_goals decide
  | some text =>
    refine bound_ofLines_of_subset ?_
    simp only [List.map_cons, List.map_nil, List.map_append, Option.map_some, Option.toList_some]
    rw [if_pos (by simp)]
    simp only [String.toList_append]
    cases kind <;> unfold RequirementKind.label RequirementKind.guidanceProperty <;>
      repeat rw [String.toList_ofList]
    all_goals decide

theorem bound_link (levelId nodeId : String) {r : Requirement}
    (hr : r.grade.map (·.1) = r.kind.gradeKey?) : (Domain.link levelId nodeId r).Bound := by
  unfold Domain.link braced
  obtain ⟨kind, _, _, _ | ⟨key, value⟩⟩ := r
  · refine bound_ofLines_of_subset ?_
    simp only [Option.map_none, Option.toList_none, List.map_cons, List.map_nil, List.append_nil,
      String.toList_append]
    cases kind <;> cases hr
    unfold RequirementKind.label RequirementKind.relationship
    repeat rw [String.toList_ofList]
    decide
  · refine bound_ofLines_of_subset ?_
    simp only [Option.map_some, Option.toList_some, List.map_append, List.map_cons, List.map_nil,
      String.toList_append]
    cases kind <;> cases hr <;> unfold RequirementKind.label RequirementKind.relationship <;>
      repeat rw [String.toList_ofList]
    all_goals decide

theorem bound_domainByName (name : String) : (Domain.byName name).Bound := by
  unfold Domain.byName Domain.collected Domain.generalization braced
  refine bound_ofLines_of_subset ?_
  simp only [List.map_cons, List.map_nil, String.toList_append]
  repeat rw [String.toList_ofList]
  decide

theorem bound_of_source {source : Source} (h : source.statement = .ok s) : s.Bound := by
  cases source with
  | matching => exact bound_matching h
  | nearest index embedding depth =>
    cases h
    exact bound_nearest index embedding depth
  | profile username =>
    cases h
    exact bound_profile username
  | createNode => exact bound_createNode h
  | updateNode => exact bound_updateNode h
  | createRelationship => exact bound_createRelationship h
  | retype => exact bound_retype h
  | mergeNode kind node =>
    cases h
    exact bound_mergeNode kind node
  | link levelId nodeId requirements r hr =>
    cases h
    exact bound_link levelId nodeId (gradeKey_of_mem_entries hr)
  | domainByName name =>
    cases h
    exact bound_domainByName name
  | _ =>
    cases h
    refine bound_ofLines_of_subset ?_
    simp only [Node.similarityResult, relationshipProjection, braced, List.map_cons, List.map_nil,
      String.toList_append]
    repeat rw [String.toList_ofList]
    decide

end

/-- The text of every statement refers to the parameters that are bound, to all and to no others;
and sources that are alike give the same text, or are refused alike. -/
theorem values_are_only_bound :
    (∀ source s, Source.statement source = .ok s → s.Bound) ∧
    ∀ source other, Alike source other →
      source.statement.map (·.text) = other.statement.map (·.text) :=
  ⟨fun _ _ => bound_of_source, fun _ _ => text_eq_of_alike⟩

theorem identifiers_like_parameters_bind_nothing :
    let source := Source.matching ["a\x60$x"] [("elementId", .str "4:x:1"),
      ("k\x60 = $y OR \x60", .str "$z")] 2
    let other := Source.matching ["a\x60$x"] [("elementId", .null),
      ("k\x60 = $y OR \x60", .str "\x60 RETURN n //")] 2
    (∃ s, source.statement = .ok s ∧ s.params.map (·.1) = ["prop_0", "prop_1"] ∧ s.Bound) ∧
      source.statement.map (·.text) = other.statement.map (·.text) := by
  intro source other
  obtain ⟨s, hs, hp⟩ : ∃ s, source.statement = .ok s ∧
      s.params.map (·.1) = ["prop_0", "prop_1"] := ⟨_, rfl, by decide⟩
  exact ⟨⟨s, hs, hp, values_are_only_bound.1 _ _ hs⟩,
    values_are_only_bound.2 _ _ (.matching rfl)⟩

end KnowledgeGraph.Graph
