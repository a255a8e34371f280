import Mathlib.Data.List.Forall2
import SequenceCalculator.Tree.Normalize

namespace SequenceCalculator
namespace Node

/-!
# Normal forms of trees

Normalization takes every operation of a single operand out of a tree, at whatever
depth, and there may be chains of them.  All that is said of it here follows from three
cases: an operation of a single operand, something that is no node, and anything else,
which is put together again from its normalized parts.  Which nodes have which parts is
said once, by `parts` and `withParts`.
-/

/-- The nodes that a node is made of, in the order of its positions. -/
def parts : Node -> List Node
  | .operation _ operands => operands
  | .range start stop => [start, stop]
  | .sequence elements => elements
  | .mapper parameter body => [parameter, body]
  | .reducer first second body => [first, second, body]
  | .map source function => [source, function]
  | .reduce source primer function => [source, primer, function]
  | .declare declared expression => [declared, expression]
  | .print literal => [literal]
  | .out expression => [expression]
  | _ => []

/-- A node of the same kind that is made of other nodes, given as many as it has. -/
def withParts : Node -> List Node -> Node
  | .operation operator _, operands => .operation operator operands
  | .range _ _, [start, stop] => .range start stop
  | .sequence _, elements => .sequence elements
  | .mapper _ _, [parameter, body] => .mapper parameter body
  | .reducer _ _ _, [first, second, body] => .reducer first second body
  | .map _ _, [source, function] => .map source function
  | .reduce _ _ _, [source, primer, function] => .reduce source primer function
  | .declare _ _, [declared, expression] => .declare declared expression
  | .print _, [literal] => .print literal
  | .out _, [expression] => .out expression
  | node, _ => node

/-- A node is somewhere in a tree, at the top or in one of the parts. -/
inductive Occurs (node : Node) : Node -> Prop where
  | here : Occurs node node
  | inside {whole part : Node} (member : part ∈ whole.parts) (occurs : Occurs node part) :
      Occurs node whole

mutual

/-- The numbers, names and strings of a tree, from left to right. -/
def leaves : Node -> List Node
  | .number value => [.number value]
  | .name text => [.name text]
  | .string content => [.string content]
  | .operation _ operands => allLeaves operands
  | .range start stop => leaves start ++ leaves stop
  | .sequence elements => allLeaves elements
  | .mapper parameter body => leaves parameter ++ leaves body
  | .reducer first second body => leaves first ++ (leaves second ++ leaves body)
  | .map source function => leaves source ++ leaves function
  | .reduce source primer function => leaves source ++ (leaves primer ++ leaves function)
  | .declare declared expression => leaves declared ++ leaves expression
  | .print literal => leaves literal
  | .out expression => leaves expression
  | .foreign _ => []

/-- The leaves of several trees, one tree after the other. -/
def allLeaves : List Node -> List Node
  | [] => []
  | node :: nodes => leaves node ++ allLeaves nodes

end

/-- Neither an operation of a single operand nor something that is no node is anywhere in
the tree. -/
structure IsCanonical (node : Node) : Prop where
  noSingle : forall operator operand, ¬ Occurs (.operation operator [operand]) node
  noForeign : forall value, ¬ Occurs (.foreign value) node

/-!
## Trees and their parts
-/

theorem sizeOf_lt_of_mem_parts {node part : Node} (member : part ∈ node.parts) :
    sizeOf part < sizeOf node := by
  cases node with
  | operation operator operands =>
      have smaller : sizeOf part < sizeOf operands := List.sizeOf_lt_of_mem member
      simp only [Node.operation.sizeOf_spec]
      omega
  | sequence elements =>
      have smaller : sizeOf part < sizeOf elements := List.sizeOf_lt_of_mem member
      simp only [Node.sequence.sizeOf_spec]
      omega
  | reducer _ _ _ | reduce _ _ _ =>
      simp only [parts, List.mem_cons, List.not_mem_nil, or_false] at member
      rcases member with rfl | rfl | rfl <;> simp +arith
  | range _ _ | mapper _ _ | map _ _ | declare _ _ =>
      simp only [parts, List.mem_cons, List.not_mem_nil, or_false] at member
      rcases member with rfl | rfl <;> simp +arith
  | print _ | out _ =>
      rw [List.mem_singleton.mp member]
      simp
  | _ => cases member

/-- What holds of a node whenever it holds of its parts holds of every node. -/
theorem parts_induction {motive : Node -> Prop}
    (step : forall node, (forall part, part ∈ node.parts -> motive part) -> motive node)
    (node : Node) : motive node :=
  step node fun part _ => parts_induction step part
termination_by sizeOf node
decreasing_by exact sizeOf_lt_of_mem_parts ‹_›

theorem withParts_parts (node : Node) : node.withParts node.parts = node := by
  cases node <;> rfl

/-- Putting a node together from as many parts as it had. -/
theorem parts_withParts {node : Node} {nodes : List Node}
    (many : nodes.length = node.parts.length) : (node.withParts nodes).parts = nodes := by
  cases node with
  | operation _ _ | sequence _ => rfl
  | reducer _ _ _ | reduce _ _ _ =>
      obtain ⟨first, second, third, rfl⟩ := List.length_eq_three.mp many
      rfl
  | range _ _ | mapper _ _ | map _ _ | declare _ _ =>
      obtain ⟨first, second, rfl⟩ := List.length_eq_two.mp many
      rfl
  | print _ | out _ =>
      obtain ⟨only, rfl⟩ := List.length_eq_one_iff.mp many
      rfl
  | _ =>
      rw [List.eq_nil_of_length_eq_zero many]
      rfl

theorem allLeaves_eq_flatMap (nodes : List Node) : allLeaves nodes = nodes.flatMap leaves := by
  induction nodes with
  | nil => rfl
  | cons node nodes inductionHypothesis =>
      rw [allLeaves, List.flatMap_cons, inductionHypothesis]

/-- A node without parts is put together as it was, and any other one has the leaves of
its parts. -/
theorem leaves_withParts {node : Node} {nodes : List Node}
    (many : nodes.length = node.parts.length)
    (same : nodes.flatMap leaves = node.parts.flatMap leaves) :
    (node.withParts nodes).leaves = node.leaves := by
  cases node with
  | operation _ _ | sequence _ =>
      simpa only [withParts, leaves, allLeaves_eq_flatMap, parts] using same
  | reducer _ _ _ | reduce _ _ _ =>
      obtain ⟨first, second, third, rfl⟩ := List.length_eq_three.mp many
      simpa [withParts, leaves, parts] using same
  | range _ _ | mapper _ _ | map _ _ | declare _ _ =>
      obtain ⟨first, second, rfl⟩ := List.length_eq_two.mp many
      simpa [withParts, leaves, parts] using same
  | print _ | out _ =>
      obtain ⟨only, rfl⟩ := List.length_eq_one_iff.mp many
      simpa [withParts, leaves, parts] using same
  | _ => cases nodes <;> rfl

/-- A tree is canonical when its parts are, unless it is itself one of the two shapes. -/
theorem isCanonical_iff {node : Node} :
    node.IsCanonical ↔ (forall operator operand, node ≠ .operation operator [operand]) ∧
      (forall value, node ≠ .foreign value) ∧
      forall part, part ∈ node.parts -> part.IsCanonical := by
  constructor
  · rintro ⟨noSingle, noForeign⟩
    refine ⟨?_, ?_, fun part member => ⟨?_, ?_⟩⟩
    · rintro operator operand rfl
      exact noSingle operator operand .here
    · rintro value rfl
      exact noForeign value .here
    · exact fun operator operand occurs => noSingle operator operand (.inside member occurs)
    · exact fun value occurs => noForeign value (.inside member occurs)
  · rintro ⟨notSingle, notForeign, each⟩
    refine ⟨?_, ?_⟩
    · rintro operator operand (_ | ⟨member, occurs⟩)
      · exact notSingle operator operand rfl
      · exact (each _ member).noSingle operator operand occurs
    · rintro value (_ | ⟨member, occurs⟩)
      · exact notForeign value rfl
      · exact (each _ member).noForeign value occurs

/-!
## Several trees
-/

theorem normalizeAll_cons {raw node : Node} {raws nodes : List Node}
    (first : raw.normalize = .ok node) (others : normalizeAll raws = .ok nodes) :
    normalizeAll (raw :: raws) = .ok (node :: nodes) := by
  rw [normalizeAll, first, others]
  rfl

theorem normalizeAll_eq_ok {raw : Node} {raws nodes : List Node}
    (normal : normalizeAll (raw :: raws) = .ok nodes) :
    ∃ node others, nodes = node :: others ∧ raw.normalize = .ok node ∧
      normalizeAll raws = .ok others := by
  rw [normalizeAll] at normal
  cases first : raw.normalize with
  | error fault => rw [first] at normal; cases normal
  | ok node =>
      cases rest : normalizeAll raws with
      | error fault => rw [first, rest] at normal; cases normal
      | ok others =>
          rw [first, rest] at normal
          cases normal
          exact ⟨node, others, rfl, rfl, rfl⟩

/-- Several trees are normalized one by one. -/
theorem normalizeAll_eq_ok_iff {raws nodes : List Node} :
    normalizeAll raws = .ok nodes ↔
      List.Forall₂ (fun raw node => raw.normalize = .ok node) raws nodes := by
  constructor
  · intro normals
    induction raws generalizing nodes with
    | nil => cases normals; exact .nil
    | cons raw raws inductionHypothesis =>
        rcases normalizeAll_eq_ok normals with ⟨node, others, rfl, first, rest⟩
        exact .cons first (inductionHypothesis rest)
  · intro each
    induction each with
    | nil => rfl
    | cons first _ inductionHypothesis => exact normalizeAll_cons first inductionHypothesis

theorem length_of_normalizeAll {raws nodes : List Node}
    (normals : normalizeAll raws = .ok nodes) : nodes.length = raws.length :=
  (normalizeAll_eq_ok_iff.mp normals).length_eq.symm

/-- Trees that normalization leaves alone are left alone together. -/
theorem normalizeAll_eq_self {nodes : List Node}
    (each : forall node, node ∈ nodes -> node.normalize = .ok node) :
    normalizeAll nodes = .ok nodes := by
  induction nodes with
  | nil => rfl
  | cons node nodes inductionHypothesis =>
      apply normalizeAll_cons (each node List.mem_cons_self)
      exact inductionHypothesis fun other member => each other (List.mem_cons_of_mem node member)

/-- Each of the trees that come out is one that went in, normalized. -/
theorem exists_of_mem_normalizeAll {raws nodes : List Node}
    (normals : normalizeAll raws = .ok nodes) {node : Node} (member : node ∈ nodes) :
    ∃ raw, raw ∈ raws ∧ raw.normalize = .ok node := by
  induction raws generalizing nodes with
  | nil => cases normals; cases member
  | cons raw raws inductionHypothesis =>
      rcases normalizeAll_eq_ok normals with ⟨head, others, rfl, first, rest⟩
      rcases List.mem_cons.mp member with rfl | later
      · exact ⟨raw, List.mem_cons_self, first⟩
      · rcases inductionHypothesis rest later with ⟨other, isThere, normal⟩
        exact ⟨other, List.mem_cons_of_mem raw isThere, normal⟩

theorem flatMap_leaves_of_normalizeAll {raws nodes : List Node}
    (normals : normalizeAll raws = .ok nodes)
    (each : forall raw, raw ∈ raws -> forall node, raw.normalize = .ok node ->
      node.leaves = raw.leaves) : nodes.flatMap leaves = raws.flatMap leaves := by
  induction raws generalizing nodes with
  | nil => cases normals; rfl
  | cons raw raws inductionHypothesis =>
      rcases normalizeAll_eq_ok normals with ⟨head, others, rfl, first, rest⟩
      rw [List.flatMap_cons, List.flatMap_cons, each raw List.mem_cons_self head first,
        inductionHypothesis rest fun other member => each other (List.mem_cons_of_mem raw member)]

/-- Several trees cannot be normalized exactly when one of them cannot, and the first of
those says why. -/
theorem normalizeAll_eq_error {raws : List Node} {cause : Fault}
    (stops : normalizeAll raws = .error cause) :
    ∃ raw, raw ∈ raws ∧ raw.normalize = .error cause := by
  induction raws with
  | nil => cases stops
  | cons raw raws inductionHypothesis =>
      rw [normalizeAll] at stops
      cases first : raw.normalize with
      | error other => rw [first] at stops; cases stops; exact ⟨raw, List.mem_cons_self, first⟩
      | ok node =>
          cases rest : normalizeAll raws with
          | error other =>
              rw [first, rest] at stops
              cases stops
              rcases inductionHypothesis rest with ⟨other, member, found⟩
              exact ⟨other, List.mem_cons_of_mem raw member, found⟩
          | ok nodes => rw [first, rest] at stops; cases stops

theorem normalizeAll_of_error {raws : List Node} {raw : Node} (member : raw ∈ raws) {cause : Fault}
    (stops : raw.normalize = .error cause) : ∃ cause, normalizeAll raws = .error cause := by
  cases normals : normalizeAll raws with
  | error other => exact ⟨other, rfl⟩
  | ok nodes =>
      exfalso
      induction raws generalizing nodes with
      | nil => cases member
      | cons head raws inductionHypothesis =>
          rcases normalizeAll_eq_ok normals with ⟨node, others, rfl, first, rest⟩
          rcases List.mem_cons.mp member with rfl | later
          · rw [stops] at first; cases first
          · exact inductionHypothesis later others rest

/-!
## One tree
-/

/-- What normalization does at the top of a tree. -/
inductive Normalizes (node : Node) : Prop where
  /-- A single operand takes the place of its operation. -/
  | single {operator : Operator} {operand : Node} (isSingle : node = .operation operator [operand])
      (normal : node.normalize = operand.normalize)
  | foreign {value : Foreign} (isForeign : node = .foreign value)
      (normal : node.normalize = .error (.notNormalizable value.shown))
  /-- Everything else is put together again from its normalized parts. -/
  | rebuilt (notSingle : forall operator operand, node ≠ .operation operator [operand])
      (notForeign : forall value, node ≠ .foreign value)
      (normal : node.normalize = (normalizeAll node.parts).map node.withParts)

theorem normalizes (node : Node) : Normalizes node := by
  match node with
  | .operation operator [operand] => exact .single rfl (by rw [normalize])
  | .foreign value => exact .foreign rfl (by rw [normalize])
  | .operation operator [] => exact .rebuilt (by simp) (by simp) rfl
  | .operation operator (first :: second :: others) =>
      refine .rebuilt (by simp) (by simp) ?_
      rw [normalize]
      · rfl
      · simp
  | .sequence elements => exact .rebuilt (by simp) (by simp) (by rw [normalize]; rfl)
  | .reducer first second third | .reduce first second third =>
      refine .rebuilt (by simp) (by simp) ?_
      simp only [normalize, parts, normalizeAll]
      cases first.normalize with
      | error cause => rfl
      | ok first =>
          cases second.normalize with
          | error cause => rfl
          | ok second => cases third.normalize <;> rfl
  | .range first second | .mapper first second | .map first second | .declare first second =>
      refine .rebuilt (by simp) (by simp) ?_
      simp only [normalize, parts, normalizeAll]
      cases first.normalize with
      | error cause => rfl
      | ok first => cases second.normalize <;> rfl
  | .print only | .out only =>
      refine .rebuilt (by simp) (by simp) ?_
      simp only [normalize, parts, normalizeAll]
      cases only.normalize <;> rfl
  | .number value => exact .rebuilt (by simp) (by simp) rfl
  | .name text => exact .rebuilt (by simp) (by simp) rfl
  | .string content => exact .rebuilt (by simp) (by simp) rfl

theorem normalize_operation {operator : Operator} {raws nodes : List Node}
    (several : 2 ≤ raws.length) (normals : normalizeAll raws = .ok nodes) :
    (Node.operation operator raws).normalize = .ok (.operation operator nodes) := by
  cases normalizes (.operation operator raws) with
  | single isSingle _ => cases isSingle; exact absurd several (by simp)
  | foreign isForeign _ => cases isForeign
  | rebuilt _ _ rebuilds =>
      rw [rebuilds, parts, normals]
      rfl

theorem normalize_eq_ok {node normal : Node} (normalized : node.normalize = .ok normal) :
    (∃ operator operand, node = .operation operator [operand] ∧ operand.normalize = .ok normal) ∨
    (forall operator operand, node ≠ .operation operator [operand]) ∧
      (forall value, node ≠ .foreign value) ∧
      ∃ nodes, normalizeAll node.parts = .ok nodes ∧ normal = node.withParts nodes := by
  cases normalizes node with
  | @single operator operand isSingle same =>
      exact .inl ⟨operator, operand, isSingle, by rw [← same, normalized]⟩
  | foreign isForeign stops => rw [stops] at normalized; cases normalized
  | rebuilt notSingle notForeign rebuilds =>
      refine .inr ⟨notSingle, notForeign, ?_⟩
      cases normals : normalizeAll node.parts with
      | error cause => rw [rebuilds, normals] at normalized; cases normalized
      | ok nodes => rw [rebuilds, normals] at normalized; cases normalized; exact ⟨nodes, rfl, rfl⟩

/-- Being put together again makes no operation and nothing foreign of a node that was
neither. -/
theorem withParts_eq_operation {node : Node} {nodes operands : List Node} {operator : Operator}
    (isOperation : node.withParts nodes = .operation operator operands) :
    ∃ before, node = .operation operator before := by
  unfold withParts at isOperation
  split at isOperation <;> cases isOperation <;> exact ⟨_, rfl⟩

theorem withParts_eq_foreign {node : Node} {nodes : List Node} {value : Foreign}
    (isForeign : node.withParts nodes = .foreign value) : node = .foreign value := by
  unfold withParts at isForeign
  split at isForeign
  all_goals cases isForeign
  rfl

/-- The induction is on the tree that went in. -/
theorem isCanonical_of_normalize {node normal : Node} (normalized : node.normalize = .ok normal) :
    normal.IsCanonical := by
  induction node using parts_induction generalizing normal with
  | step node inductionHypothesis =>
      rcases normalize_eq_ok normalized with
        ⟨operator, operand, rfl, inside⟩ | ⟨notSingle, notForeign, nodes, normals, rfl⟩
      · exact inductionHypothesis operand List.mem_cons_self inside
      have many := length_of_normalizeAll normals
      refine isCanonical_iff.mpr ⟨?_, ?_, ?_⟩
      · intro operator operand isSingle
        rcases withParts_eq_operation isSingle with ⟨operands, rfl⟩
        rw [withParts, operation.injEq] at isSingle
        rw [isSingle.2] at many
        rcases List.length_eq_one_iff.mp many.symm with ⟨only, isOnly⟩
        exact notSingle operator only (congrArg (Node.operation operator) isOnly)
      · intro value isForeign
        exact notForeign value (withParts_eq_foreign isForeign)
      · rw [parts_withParts many]
        intro part member
        rcases exists_of_mem_normalizeAll normals member with ⟨raw, isThere, normal⟩
        exact inductionHypothesis raw isThere normal

theorem IsCanonical.normalize_eq {node : Node} (canonical : node.IsCanonical) :
    node.normalize = .ok node := by
  induction node using parts_induction with
  | step node inductionHypothesis =>
      rcases isCanonical_iff.mp canonical with ⟨notSingle, notForeign, each⟩
      cases normalizes node with
      | single isSingle _ => exact absurd isSingle (notSingle _ _)
      | foreign isForeign _ => exact absurd isForeign (notForeign _)
      | rebuilt _ _ rebuilds =>
          have same := normalizeAll_eq_self fun part member =>
            inductionHypothesis part member (each part member)
          rw [rebuilds, same, Except.map, withParts_parts]

theorem leaves_of_normalize {node normal : Node} (normalized : node.normalize = .ok normal) :
    normal.leaves = node.leaves := by
  induction node using parts_induction generalizing normal with
  | step node inductionHypothesis =>
      rcases normalize_eq_ok normalized with
        ⟨operator, operand, rfl, inside⟩ | ⟨_, _, nodes, normals, rfl⟩
      · rw [inductionHypothesis operand List.mem_cons_self inside, leaves, allLeaves, allLeaves,
          List.append_nil]
      · exact leaves_withParts (length_of_normalizeAll normals)
          (flatMap_leaves_of_normalizeAll normals fun raw member normal isNormal =>
            inductionHypothesis raw member isNormal)

/-- Normalization is refused because of something in the tree that is no node, and the
refusal shows it. -/
theorem normalize_eq_error {node : Node} {cause : Fault} (stops : node.normalize = .error cause) :
    ∃ value, Occurs (.foreign value) node ∧ cause = .notNormalizable value.shown := by
  induction node using parts_induction with
  | step node inductionHypothesis =>
      cases normalizes node with
      | @single operator operand isSingle same =>
          subst isSingle
          rcases inductionHypothesis operand List.mem_cons_self (by rw [← same, stops]) with
            ⟨value, occurs, shows_⟩
          exact ⟨value, .inside List.mem_cons_self occurs, shows_⟩
      | @foreign value isForeign refuses =>
          subst isForeign
          rw [refuses] at stops
          cases stops
          exact ⟨value, .here, rfl⟩
      | rebuilt _ _ rebuilds =>
          cases normals : normalizeAll node.parts with
          | ok nodes => rw [rebuilds, normals] at stops; cases stops
          | error other =>
              rw [rebuilds, normals] at stops
              cases stops
              rcases normalizeAll_eq_error normals with ⟨part, member, stopsThere⟩
              rcases inductionHypothesis part member stopsThere with ⟨value, occurs, shows_⟩
              exact ⟨value, .inside member occurs, shows_⟩

/-- Nothing that is no node is overlooked. -/
theorem exists_error_of_foreign {node : Node} {value : Foreign}
    (occurs : Occurs (.foreign value) node) : ∃ cause, node.normalize = .error cause := by
  induction occurs with
  | here => exact ⟨_, rfl⟩
  | @inside node part member occurs inductionHypothesis =>
      rcases inductionHypothesis with ⟨cause, stops⟩
      cases normalizes node with
      | @single operator operand isSingle same =>
          subst isSingle
          rw [List.mem_singleton.mp member] at stops
          exact ⟨cause, by rw [same, stops]⟩
      | foreign isForeign refuses => exact ⟨_, refuses⟩
      | rebuilt _ _ rebuilds =>
          rcases normalizeAll_of_error member stops with ⟨first, stopsAll⟩
          exact ⟨first, by rw [rebuilds, stopsAll]; rfl⟩

/-- A tree that is normalized has no operation of a single operand left, at any depth.
It is a fixed point of normalization, and its numbers, names and strings are those of the
tree that went in, in the same order.  Trees without such operations are left alone.
Normalization refuses exactly the trees in which something that is no node stands in the
place of a node, as a value of the wrong kind. -/
theorem normalize_canonical (node : Node) :
    (forall normal, node.normalize = .ok normal ->
      (forall operator operand, ¬ Occurs (.operation operator [operand]) normal) ∧
      normal.normalize = .ok normal ∧ normal.leaves = node.leaves) ∧
    ((forall operator operand, ¬ Occurs (.operation operator [operand]) node) ->
      (forall value, ¬ Occurs (.foreign value) node) -> node.normalize = .ok node) ∧
    ((∃ cause, node.normalize = .error cause) ↔ ∃ value, Occurs (.foreign value) node) ∧
    forall cause, node.normalize = .error cause -> cause.category = "TypeError" ∧
      ∃ value, Occurs (.foreign value) node ∧ cause = .notNormalizable value.shown := by
  refine ⟨?_, fun noSingle noForeign => IsCanonical.normalize_eq ⟨noSingle, noForeign⟩, ?_, ?_⟩
  · intro normal normalized
    have canonical := isCanonical_of_normalize normalized
    exact ⟨canonical.noSingle, canonical.normalize_eq, leaves_of_normalize normalized⟩
  · constructor
    · rintro ⟨cause, stops⟩
      rcases normalize_eq_error stops with ⟨value, occurs, _⟩
      exact ⟨value, occurs⟩
    · rintro ⟨value, occurs⟩
      exact exists_error_of_foreign occurs
  · intro cause stops
    rcases normalize_eq_error stops with ⟨value, occurs, rfl⟩
    exact ⟨rfl, value, occurs, rfl⟩

end Node
end SequenceCalculator
