import BoundSql.Expr.Json
import BoundSql.Proofs.Json.Tree

/-!
Expressions as JSON texts. A recoverable expression captures no float, date or identifier; from
its text it is read back as the same tree, unless arrays and objects are nested too deep in it.
The main statement is `ofJson?_read?_toJson`.
-/

namespace BoundSql

/-! ## Nesting -/

namespace Json

mutual
/-- How many arrays and objects are around the innermost part of a tree. -/
def depth : Json → Nat
  | .array items => depthOfItems items + 1
  | .object members => depthOfMembers members + 1
  | _ => 0

def depthOfItems : List Json → Nat
  | [] => 0
  | item :: rest => max (depth item) (depthOfItems rest)

def depthOfMembers : List (List Char × Json) → Nat
  | [] => 0
  | (_, value) :: rest => max (depth value) (depthOfMembers rest)
end

theorem depth_le_depthOfItems {item : Json} {items : List Json} (among : item ∈ items) :
    item.depth ≤ depthOfItems items := by
  induction items with
  | nil => contradiction
  | cons first rest induction =>
      rw [depthOfItems]
      rcases List.mem_cons.mp among with rfl | later
      · exact Nat.le_max_left ..
      · exact le_trans (induction later) (Nat.le_max_right ..)

theorem mapM_map_of_each {encode : α → Json} {decode : Json → Option α} {items : List α}
    (each : ∀ item ∈ items, decode (encode item) = some item) :
    (items.map encode).mapM decode = some items := by
  induction items with
  | nil => rfl
  | cons item rest induction =>
      rw [List.forall_mem_cons] at each
      simp [List.mapM_cons, each.1, induction each.2]

end Json

open Json

/-! ## Values -/

namespace Value

inductive Recoverable : Value → Prop
  | null : Recoverable .null
  | bool (b : Bool) : Recoverable (.bool b)
  | int (n : Int64) : Recoverable (.int n)
  | text (s : String) : Recoverable (.text s)
  | list (each : ∀ item ∈ items, Recoverable item) : Recoverable (.list items)

theorem itemsToJson_eq_map (items : List Value) : itemsToJson items = items.map toJson := by
  induction items with
  | nil => rfl
  | cons item rest induction => rw [itemsToJson, induction, List.map_cons]

theorem Recoverable.legible {value : Value} (recoverable : value.Recoverable) :
    value.toJson.Legible := by
  induction recoverable with
  | null => exact .null
  | bool b => exact .bool b
  | int n => exact .numeral n.toInt
  | text s => exact .string s.toList
  | list each induction =>
      rw [toJson, itemsToJson_eq_map]
      exact .array (List.forall_mem_map.mpr induction)

theorem ofJson?_ofInt (n : Int64) (budget : Nat) :
    ofJson? budget (.ofInt n.toInt) = some (.int n) := by
  have low := n.minValue_le_toInt
  have high := n.toInt_le
  have largest : Int64.maxValue.toInt < UInt64.size := by decide
  have read := quantityOf?_signedDigits low (by omega : n.toInt < UInt64.size)
  simp [ofJson?, Json.ofInt, read, ofQuantity, high]

theorem Recoverable.ofJson?_toJson {value : Value} (recoverable : value.Recoverable) {budget : Nat}
    (enough : value.toJson.depth ≤ budget) : ofJson? budget value.toJson = some value := by
  induction recoverable generalizing budget with
  | null => simp [toJson, ofJson?]
  | bool b => simp [toJson, ofJson?]
  | int n => rw [toJson, ofJson?_ofInt]
  | text s => simp [toJson, Json.ofString, Json.ofText, ofJson?]
  | @list items each induction =>
      rw [toJson, itemsToJson_eq_map, depth] at enough
      obtain ⟨budget, rfl⟩ : ∃ less, budget = less + 1 := ⟨budget - 1, by omega⟩
      have read : (items.map toJson).mapM (ofJson? budget) = some items := by
        apply mapM_map_of_each
        intro item among
        have within := depth_le_depthOfItems (List.mem_map_of_mem (f := toJson) among)
        exact induction item among (by omega)
      rw [toJson, itemsToJson_eq_map, ofJson?, read]
      rfl

end Value

/-! ## Expressions -/

namespace Expr

inductive Recoverable : Expr → Prop
  | constant (recoverable : value.Recoverable) : Recoverable (.constant value)
  | member (name : String) : Recoverable (.member name)
  | binary (op : BinaryOp) (left : Recoverable a) (right : Recoverable b) :
      Recoverable (.binary op a b)
  | unary (op : UnaryOp) (operand : Recoverable a) : Recoverable (.unary op a)
  | call (method : Method) (target : Recoverable a) (each : ∀ arg ∈ args, Recoverable arg) :
      Recoverable (.call a method args)
  | assign (each : ∀ binding ∈ bindings, Recoverable binding.2) : Recoverable (.assign bindings)
  | fields (each : ∀ item ∈ items, Recoverable item) : Recoverable (.fields items)

def bindingToJson (binding : String × Expr) : Json :=
  record [("member", .ofString binding.1), ("value", toJson binding.2)]

theorem itemsToJson_eq_map (items : List Expr) : itemsToJson items = items.map toJson := by
  induction items with
  | nil => rfl
  | cons item rest induction => rw [itemsToJson, induction, List.map_cons]

theorem bindingsToJson_eq_map (bindings : List (String × Expr)) :
    bindingsToJson bindings = bindings.map bindingToJson := by
  induction bindings with
  | nil => rfl
  | cons binding rest induction =>
      rcases binding with ⟨name, expr⟩
      rw [bindingsToJson, induction, List.map_cons, bindingToJson]

@[simp] theorem legible_record (members : List (String × Json)) :
    (record members).Legible ↔ ∀ member ∈ members, member.2.Legible := by
  constructor
  · rintro (_ | _ | _ | _ | _ | ⟨_, each⟩)
    simpa only [List.forall_mem_map] using each
  · intro each
    refine .object ?_ ?_
    · simp only [List.forall_mem_map]
      exact fun member _ => ⟨member.1.toList, rfl⟩
    · simpa only [List.forall_mem_map] using each

@[simp] theorem legible_ofString (text : String) : (Json.ofString text).Legible :=
  .string text.toList

theorem Recoverable.legible {expr : Expr} (recoverable : expr.Recoverable) :
    expr.toJson.Legible := by
  induction recoverable with
  | constant recoverable => simpa [toJson] using recoverable.legible
  | member name => simp [toJson]
  | binary op left right leftLegible rightLegible => simp [toJson, leftLegible, rightLegible]
  | unary op operand legible => simp [toJson, legible]
  | call method target each targetLegible argsLegible =>
      have args := Legible.array (List.forall_mem_map.mpr argsLegible)
      simp [toJson, itemsToJson_eq_map, targetLegible, args]
  | @assign bindings each legible =>
      have pairs : ∀ binding ∈ bindings, (bindingToJson binding).Legible := by
        intro binding among
        simp [bindingToJson, legible binding among]
      have list := Legible.array (List.forall_mem_map.mpr pairs)
      simp [toJson, bindingsToJson_eq_map, list]
  | fields each legible =>
      have list := Legible.array (List.forall_mem_map.mpr legible)
      simp [toJson, itemsToJson_eq_map, list]

/-! ## Records

A record that is written with all its fields in order gives its reader all its fields. -/

theorem idxOf?_append_cons {name : String} {before : List String} (fresh : name ∉ before)
    (after : List String) : (before ++ name :: after).idxOf? name = some before.length := by
  rw [← List.idxOf?_eq_none_iff, List.idxOf?] at fresh
  simp [List.idxOf?, List.findIdx?_append, fresh, List.findIdx?_cons]

theorem gather?_record {members : List (String × Json)} (strict : Bool) (before : List String)
    (distinct : (before ++ members.map Prod.fst).Nodup) :
    gather? (before ++ members.map Prod.fst) strict
        (members.map fun (name, value) => (escape name.toList, value)) =
      some (before.map (fun _ => none) ++ members.map fun member => some member.2) := by
  induction members generalizing before with
  | nil => simp [gather?]
  | cons member members induction =>
      have regroup : before ++ (member :: members).map Prod.fst =
          (before ++ [member.1]) ++ members.map Prod.fst := by simp
      rw [regroup] at distinct
      have rest := induction (before ++ [member.1]) distinct
      have fresh : member.1 ∉ before := by
        have parts := List.nodup_append.mp (List.nodup_append.mp distinct).1
        exact fun among => parts.2.2 _ among _ (by simp) rfl
      have place := idxOf?_append_cons fresh (members.map Prod.fst)
      rw [List.append_assoc, List.singleton_append] at rest
      simp [gather?, rest, place]

theorem fields?_record (members : List (String × Json)) (strict : Bool)
    (distinct : (members.map Prod.fst).Nodup) :
    fields? (members.map Prod.fst) strict (record members) =
      some (members.map fun member => some member.2) := by
  simpa [fields?, record] using gather?_record strict [] distinct

@[simp] theorem variant?_record (name : String) (value : Json) :
    variant? (record [(name, value)]) = some (name, value) := by
  simp [record, variant?]

@[simp] theorem nameFrom?_ofString (table : List (String × α)) (budget : Nat) (name : String) :
    nameFrom? table budget (.ofString name) = table.lookup name := by
  simp [Json.ofString, Json.ofText, nameFrom?, string?]

/-! ## Reading back -/

theorem binaryOfJson?_record {inner : Json → Option Expr} (budget : Nat) (op : BinaryOp)
    {left right : Expr} (leftRead : inner left.toJson = some left)
    (rightRead : inner right.toJson = some right) :
    binaryOfJson? inner budget (record
        [("op", .ofString op.tag), ("left", left.toJson), ("right", right.toJson)]) =
      some (.binary op left right) := by
  have parts := fields?_record
    [("op", .ofString op.tag), ("left", left.toJson), ("right", right.toJson)] false (by simp)
  simp only [List.map_cons, List.map_nil] at parts
  simp [binaryOfJson?, parts, required?, BinaryOp.lookup_tag, leftRead, rightRead]

theorem unaryOfJson?_record {inner : Json → Option Expr} (budget : Nat) (op : UnaryOp)
    {operand : Expr} (read : inner operand.toJson = some operand) :
    unaryOfJson? inner budget (record
        [("op", .ofString op.tag), ("operand", operand.toJson)]) = some (.unary op operand) := by
  have parts := fields?_record
    [("op", .ofString op.tag), ("operand", operand.toJson)] false (by simp)
  simp only [List.map_cons, List.map_nil] at parts
  simp [unaryOfJson?, parts, required?, UnaryOp.lookup_tag, read]

theorem callOfJson?_record {inner : Json → Option Expr} {items : Json → Option (List Expr)}
    (budget : Nat) {target : Expr} (method : Method) {args : List Expr}
    (targetRead : inner target.toJson = some target)
    (argsRead : items (.array (args.map toJson)) = some args) :
    callOfJson? inner items budget (record
        [("target", target.toJson), ("method", .ofString method.tag),
         ("args", .array (args.map toJson))]) = some (.call target method args) := by
  have parts := fields?_record
    [("target", target.toJson), ("method", .ofString method.tag),
     ("args", .array (args.map toJson))] false (by simp)
  simp only [List.map_cons, List.map_nil] at parts
  simp [callOfJson?, parts, required?, Method.lookup_tag, targetRead, argsRead]

theorem bindingOfJson?_bindingToJson {inner : Json → Option Expr} {binding : String × Expr}
    (read : inner binding.2.toJson = some binding.2) :
    bindingOfJson? inner (bindingToJson binding) = some binding := by
  have parts := fields?_record
    [("member", .ofString binding.1), ("value", binding.2.toJson)] false (by simp)
  simp only [List.map_cons, List.map_nil] at parts
  simp [bindingOfJson?, bindingToJson, parts, required?, read]

theorem listOf?_toJson {items : List Expr} {budget : Nat}
    (read : ∀ item ∈ items, ∀ {budget : Nat}, item.toJson.depth ≤ budget →
      ofJson? budget item.toJson = some item)
    (enough : depthOfItems (items.map toJson) ≤ budget) :
    listOf? (ofJson? budget) (.array (items.map toJson)) = some items := by
  apply mapM_map_of_each
  intro item among
  have within := depth_le_depthOfItems (List.mem_map_of_mem (f := toJson) among)
  exact read item among (by omega)

theorem depth_bindingToJson (binding : String × Expr) :
    (bindingToJson binding).depth = binding.2.toJson.depth + 1 := by
  simp [bindingToJson, record, depth, depthOfMembers, Json.ofString, Json.ofText]

theorem listOf?_bindingToJson {bindings : List (String × Expr)} {budget : Nat}
    (read : ∀ binding ∈ bindings, ∀ {budget : Nat}, binding.2.toJson.depth ≤ budget →
      ofJson? budget binding.2.toJson = some binding.2)
    (enough : depthOfItems (bindings.map bindingToJson) ≤ budget + 1) :
    listOf? (bindingOfJson? (ofJson? budget)) (.array (bindings.map bindingToJson)) =
      some bindings := by
  apply mapM_map_of_each
  intro binding among
  have within := depth_le_depthOfItems (List.mem_map_of_mem (f := bindingToJson) among)
  rw [depth_bindingToJson] at within
  exact bindingOfJson?_bindingToJson (read binding among (by omega))

theorem Recoverable.ofJson?_toJson {expr : Expr} (recoverable : expr.Recoverable) {budget : Nat}
    (enough : expr.toJson.depth ≤ budget) : ofJson? budget expr.toJson = some expr := by
  induction recoverable generalizing budget with
  | constant recoverable =>
      simp only [toJson, record, List.map_cons, List.map_nil, depth, depthOfMembers] at enough
      obtain ⟨budget, rfl⟩ : ∃ less, budget = less + 1 := ⟨budget - 1, by omega⟩
      have read := recoverable.ofJson?_toJson (show _ ≤ budget by omega)
      simp [toJson, ofJson?, read]
  | member name =>
      simp only [toJson, record, List.map_cons, List.map_nil, depth, depthOfMembers] at enough
      obtain ⟨budget, rfl⟩ : ∃ less, budget = less + 1 := ⟨budget - 1, by omega⟩
      simp [toJson, ofJson?]
  | binary op left right leftRead rightRead =>
      simp only [toJson, record, List.map_cons, List.map_nil, depth, depthOfMembers] at enough
      obtain ⟨budget, rfl⟩ : ∃ less, budget = less + 2 := ⟨budget - 2, by omega⟩
      have read := binaryOfJson?_record budget op (leftRead (show _ ≤ budget by omega))
        (rightRead (show _ ≤ budget by omega))
      simp [toJson, ofJson?, read]
  | unary op operand operandRead =>
      simp only [toJson, record, List.map_cons, List.map_nil, depth, depthOfMembers] at enough
      obtain ⟨budget, rfl⟩ : ∃ less, budget = less + 2 := ⟨budget - 2, by omega⟩
      have read := unaryOfJson?_record budget op (operandRead (show _ ≤ budget by omega))
      simp [toJson, ofJson?, read]
  | call method target each targetRead argsRead =>
      simp only [toJson, itemsToJson_eq_map, record, List.map_cons, List.map_nil, depth,
        depthOfMembers] at enough
      obtain ⟨budget, rfl⟩ : ∃ less, budget = less + 3 := ⟨budget - 3, by omega⟩
      have read := callOfJson?_record (budget + 1) method
        (targetRead (show _ ≤ budget + 1 by omega))
        (listOf?_toJson argsRead (show _ ≤ budget by omega))
      simp [toJson, itemsToJson_eq_map, ofJson?, read]
  | @assign bindings each bindingsRead =>
      cases bindings with
      | nil =>
          simp only [toJson, bindingsToJson, record, List.map_cons, List.map_nil, depth,
            depthOfMembers] at enough
          obtain ⟨budget, rfl⟩ : ∃ less, budget = less + 2 := ⟨budget - 2, by omega⟩
          -- No binding asks for a budget, so an array that may not hold one is enough.
          cases budget <;> simp [toJson, bindingsToJson, ofJson?, listOf?]
      | cons binding rest =>
          simp only [toJson, bindingsToJson_eq_map, record, List.map_cons, List.map_nil, depth,
            depthOfMembers, depthOfItems, depth_bindingToJson] at enough
          obtain ⟨budget, rfl⟩ : ∃ less, budget = less + 3 := ⟨budget - 3, by omega⟩
          have within : depthOfItems ((binding :: rest).map bindingToJson) ≤ budget + 1 := by
            rw [List.map_cons, depthOfItems, depth_bindingToJson]
            omega
          have read := listOf?_bindingToJson bindingsRead within
          rw [List.map_cons] at read
          simp [toJson, bindingsToJson_eq_map, ofJson?, read]
  | fields each itemsRead =>
      simp only [toJson, itemsToJson_eq_map, record, List.map_cons, List.map_nil, depth,
        depthOfMembers] at enough
      obtain ⟨budget, rfl⟩ : ∃ less, budget = less + 2 := ⟨budget - 2, by omega⟩
      have read := listOf?_toJson itemsRead (show _ ≤ budget by omega)
      simp [toJson, itemsToJson_eq_map, ofJson?, read]

/-- A recoverable expression is read from its text as it was, unless arrays and objects are nested
too deep in it. -/
theorem ofJson?_read?_toJson {expr : Expr} (recoverable : expr.Recoverable)
    (shallow : expr.toJson.depth ≤ nestingLimit) :
    (read? expr.toJson.compact.toList).bind (ofJson? nestingLimit) = some expr := by
  rw [compact, String.toList_ofList, read?_write recoverable.legible, Option.bind_some]
  exact recoverable.ofJson?_toJson shallow

/-- A text with a quote, a reverse slash and a control, beside the least integer. -/
def trickyList : Value := .list [.int Int64.minValue, .null, .list [.text "a\"\\\n\x01é"]]

def trickyExpr : Expr :=
  .binary .or (.call (.constant trickyList) .contains [.member "Age"])
    (.assign [("Name", .unary .not (.constant (.bool false)))])

theorem ofJson?_read?_trickyExpr :
    (read? trickyExpr.toJson.compact.toList).bind (ofJson? nestingLimit) = some trickyExpr := by
  have inner : Value.Recoverable (.list [.text "a\"\\\n\x01é"]) :=
    .list (by simpa using Value.Recoverable.text _)
  have list : trickyList.Recoverable :=
    .list (by simpa using ⟨Value.Recoverable.int _, Value.Recoverable.null, inner⟩)
  have recoverable : trickyExpr.Recoverable := by
    refine .binary _ (.call _ (.constant list) ?_) (.assign ?_)
    · simpa using Recoverable.member "Age"
    · simpa using Recoverable.unary .not (.constant (.bool false))
  exact ofJson?_read?_toJson recoverable (by decide +kernel)

end Expr

end BoundSql
