import DynamicSql.Proofs.Json.Reading
import DynamicSql.Rendering.Template

/-!
# The text of a template

What is written for the nodes of a template is read back as these nodes (`parse_write`).  The
document that stands between the two has no numbers, so its text is read back as the document,
and of every node it holds the type and each member once.
-/

namespace DynamicSql

namespace TemplateNode

/-- What holds of a node when it holds of its children holds of every node. -/
@[elab_as_elim]
theorem childrenInduction {motive : TemplateNode → Prop} (text : ∀ sql, motive (.text sql))
    (bind : ∀ name value, motive (.bind name value))
    (mixed : ∀ children, (∀ child ∈ children, motive child) → motive (.mixed children))
    (node : TemplateNode) : motive node := by
  refine TemplateNode.rec (motive_1 := motive)
    (motive_2 := fun nodes => ∀ node ∈ nodes, motive node) text bind mixed ?_ ?_ node
  · exact fun node hnode => absurd hnode List.not_mem_nil
  · exact fun first rest hfirst hrest => List.forall_mem_cons.2 ⟨hfirst, hrest⟩

theorem allToJson_eq (nodes : List TemplateNode) : allToJson nodes = nodes.map toJson := by
  induction nodes with
  | nil => rfl
  | cons node rest ih => rw [allToJson, ih, List.map_cons]

/-! ## What is written -/

/-- The document of a node has no numbers. -/
theorem everyNumber_toJson (test : JsonNumber → Bool) (node : TemplateNode) :
    (toJson node).everyNumber test = true := by
  induction node using childrenInduction with
  | text sql => rfl
  | bind name value => rfl
  | mixed children ih =>
    have hchildren : (Json.array (allToJson children)).everyNumber test = true := by
      rw [Json.everyNumber_array, allToJson_eq]
      exact List.forall_mem_map.2 ih
    rw [toJson, Json.everyNumber_object]
    simp only [List.forall_mem_cons, List.not_mem_nil, false_imp_iff, implies_true, and_true]
    exact ⟨rfl, hchildren⟩

/-- No node nests deeper than all of them. -/
theorem depth_toJson_le {nodes : List TemplateNode} {node : TemplateNode} (h : node ∈ nodes) :
    (toJson node).depth ≤ Json.depthItems (allToJson nodes) := by
  induction nodes with
  | nil => cases h
  | cons first rest ih =>
    rw [allToJson, Json.depthItems]
    rcases List.mem_cons.1 h with rfl | hrest
    · exact Nat.le_max_left _ _
    · exact Nat.le_trans (ih hrest) (Nat.le_max_right _ _)

/-! ## What is read -/

/-- Nodes that are read back one by one are read back together. -/
theorem mapM_allToJson {read : Json → Option TemplateNode} {nodes : List TemplateNode}
    (h : ∀ node ∈ nodes, read (toJson node) = some node) :
    (allToJson nodes).mapM read = some nodes := by
  induction nodes with
  | nil => rfl
  | cons node rest ih =>
    obtain ⟨hnode, hrest⟩ := List.forall_mem_cons.1 h
    rw [allToJson, List.mapM_cons, hnode, ih hrest]
    rfl

/-- A node is read back from its document, by one who follows as deep as it nests. -/
theorem readTo_toJson {node : TemplateNode} {depth : Nat} {byNumber : Bool}
    (h : (toJson node).depth ≤ depth) : readTo depth byNumber (toJson node) = some node := by
  induction node using childrenInduction generalizing depth byNumber with
  | text sql =>
    have hdepth : 1 ≤ depth := h
    obtain ⟨depth, rfl⟩ : ∃ n, depth = n + 1 := ⟨depth - 1, by omega⟩
    rfl
  | bind name value =>
    have hdepth : 1 ≤ depth := h
    obtain ⟨depth, rfl⟩ : ∃ n, depth = n + 1 := ⟨depth - 1, by omega⟩
    rfl
  | mixed children ih =>
    have hdepth : max 0 (max (Json.depthItems (allToJson children) + 1) 0) + 1 ≤ depth := h
    obtain ⟨depth, rfl⟩ : ∃ n, depth = n + 1 := ⟨depth - 1, by omega⟩
    have hchildren : (allToJson children).mapM (readTo depth true) = some children :=
      mapM_allToJson fun child hchild => ih child hchild
        (Nat.le_trans (depth_toJson_le hchild) (by omega))
    show ((allToJson children).mapM (readTo depth true)).bind (fun nodes => some (mixed nodes)) = _
    rw [hchildren]
    rfl

/-- Nodes are read back from the document that is written for them. -/
theorem ofJson_allToJson (nodes : List TemplateNode) :
    ofJson (.array (allToJson nodes)) = some nodes :=
  mapM_allToJson fun _ _ => readTo_toJson (Nat.le_succ _)

/-- **Templates survive their text.**  Nodes whose document a reader of JSON can follow are
read back from the compact text that is written for them, so that what is rendered from the
text is what is rendered from the nodes. -/
theorem parse_write {nodes : List TemplateNode}
    (h : (Json.array (allToJson nodes)).depth ≤ Json.maxDepth) :
    parse (write nodes) = some nodes ∧
      ∀ (engine : Engine) (heap : Heap) (parameter : Value),
        (parse (write nodes)).map (fun found => render found engine heap parameter) =
          some (render nodes engine heap parameter) := by
  have hnumbers : (Json.array (allToJson nodes)).everyNumber JsonNumber.isInteger = true := by
    rw [Json.everyNumber_array, allToJson_eq]
    exact List.forall_mem_map.2 fun node _ => everyNumber_toJson _ node
  have hparse : parse (write nodes) = some nodes := by
    rw [parse, write, Json.parse_compact hnumbers h]
    exact ofJson_allToJson nodes
  refine ⟨hparse, fun engine heap parameter => ?_⟩
  rw [hparse]
  rfl

/-- A template with quotes, control characters and groups, an empty one among them. -/
def greetings : List TemplateNode :=
  [.bind "who's" "name + \"\\\"", .mixed [.mixed [], .text "SELECT 'é\t\x01'",
    .mixed [.text "", .bind "" "🦀 == null"]], .text "\x7bx\x7d\n"]

/-- A template with quotes, control characters and nested groups is read back. -/
theorem parse_write_greetings :
    (Json.array (allToJson greetings)).depth = 6 ∧ 6 ≤ Json.maxDepth ∧
      write (greetings.take 1) =
        "[\x7b\"type\":\"bind\",\"name\":\"who's\",\"value\":\"name + \\\"\\\\\\\"\"\x7d]" ∧
      parse (write greetings) = some greetings ∧
      ∀ (engine : Engine) (heap : Heap) (parameter : Value),
        (parse (write greetings)).map (fun found => render found engine heap parameter) =
          some (render greetings engine heap parameter) :=
  ⟨rfl, by decide, rfl, parse_write (by decide)⟩

end TemplateNode

end DynamicSql
