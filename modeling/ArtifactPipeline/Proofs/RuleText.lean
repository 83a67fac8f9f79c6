import ArtifactPipeline.Policy.Rule
import ArtifactPipeline.Proofs.RecordParts

/-!
# Rules in JSON text

A rule is an object whose check is an object of its own, and the parts of the check stand beside the
member that tells which check it is. What has been written for a rule is read as that rule. The
message, the switch and the tenant may be left out, and only these parts change then: nothing is
said, the rule is in force, and it holds for every tenant.
-/

namespace ArtifactPipeline

open Json

/-! ## Checks -/

/-- An object whose members all have names and values has a value. -/
theorem Json.Node.members?_isSome {members : List (String × Node)} {depth : Nat}
    (h : ∀ m ∈ members, (m.2.value? depth).isSome) (known : List (String × Value)) :
    (Node.members? depth known (members.map fun m => (some m.1, m.2))).isSome := by
  induction members generalizing known with
  | nil =>
    rw [List.map_nil, Node.members?]
    exact Option.isSome_some
  | cons m members ih =>
    obtain ⟨hm, hrest⟩ := List.forall_mem_cons.mp h
    obtain ⟨v, hv⟩ := Option.isSome_iff_exists.mp hm
    rw [List.map_cons, Node.members?]
    exacts [ih hrest _, v, hv]

namespace Metric

/-- A metric is read back from its name. -/
theorem ofPart?_label (metric : Metric) : ofPart? (.str (some metric.label)) = some metric := by
  cases metric <;> decide

end Metric

namespace RuleKind

/-- A check whose limit, if it has one, is a number of 64 bits. -/
def Fits (kind : RuleKind) : Prop :=
  ∀ metric max, kind = resourceLimit metric max → max < Nat.pow 2 64

/-- The text that tells which check it is. -/
def tag : RuleKind → String
  | pattern _ => "pattern"
  | dependencyAllowlist => "dependency_allowlist"
  | resourceLimit _ _ => "resource_limit"

/-- What is said of a check beside its type. -/
def details : RuleKind → List (String × Node)
  | pattern p => [("pattern", .str (some p))]
  | dependencyAllowlist => []
  | resourceLimit metric max =>
    [("metric", .str (some metric.label)), ("max", .num (.ofNat max))]

/-- The parts of a check as they are said. -/
def parts (kind : RuleKind) : List (String × Node) :=
  ("type", .str (some kind.tag)) :: kind.details

variable {kind : RuleKind} {members : List (String × Node)}

/-- A limit that fits can be said as a number. -/
theorem Fits.le_maxUnsigned {metric : Metric} {max : Nat} (h : (resourceLimit metric max).Fits) :
    max ≤ Numeral.maxUnsigned := by
  have hmax : max < Nat.pow 2 64 := h metric max rfl
  exact Nat.le_sub_one_of_lt hmax

/-- The type is the only part of a check of that name. -/
theorem details_names (kind : RuleKind) : ∀ m ∈ kind.details, (m.1 != "type") = true := by
  cases kind <;> simp [details]

/-- No detail of a check is said twice. -/
theorem details_nodup (kind : RuleKind) : (kind.details.map (·.1)).Nodup := by
  cases kind <;> simp [details]

/-- Each part of a check that fits can be kept for later, at any depth. -/
theorem parts_value? (hfits : kind.Fits) {depth : Nat} :
    ∀ m ∈ kind.parts, (m.2.value? depth).isSome := by
  cases kind with
  | pattern p => simp [parts, details, Node.value?]
  | dependencyAllowlist => simp [parts, details, Node.value?]
  | resourceLimit metric max =>
    simp [parts, details, Node.value?, Numeral.value?_ofNat hfits.le_maxUnsigned]

/-- The details of a check are read in any order. -/
theorem ofParts?_obj (hfits : kind.Fits) (h : members.Perm kind.details) :
    ofParts? kind.tag (.obj (members.map fun m => (some m.1, m.2))) = some kind := by
  cases kind with
  | pattern p =>
    obtain rfl : members = [("pattern", .str (some p))] := List.perm_singleton.mp h
    rfl
  | dependencyAllowlist => rfl
  | resourceLimit metric max =>
    have hknown : (members.filter fun m => ["metric", "max"].contains m.1).Perm
        (resourceLimit metric max).details :=
      h.filter _
    obtain ⟨r, hr, hget⟩ := Record.ofNode?_obj (details_nodup _) hknown
    have hmetric : r.get? "metric" = some (.str (some metric.label)) := hget "metric"
    have hmax : r.get? "max" = some (.num (.ofNat max)) := hget "max"
    have hread : Node.nat64? (.num (.ofNat max)) = some max :=
      natBelow?_ofNat (hfits metric max rfl) hfits.le_maxUnsigned
    simp [ofParts?, tag, hr, Record.required, hmetric, hmax, hread, Metric.ofPart?_label]

/-- A check is read from its parts in any order. -/
theorem ofNode?_obj (hfits : kind.Fits) (h : members.Perm kind.parts) :
    ofNode? (.obj (members.map fun m => (some m.1, m.2))) = some kind := by
  have hdetails := kind.details_names
  -- The member that tells the type is alone among the members, wherever it stands.
  have htags : members.filter (·.1 == "type") = [("type", .str (some kind.tag))] := by
    have hnone : kind.details.filter (·.1 == "type") = [] := by
      rw [List.filter_eq_nil_iff]
      intro m hm
      simpa using hdetails m hm
    have hperm := h.filter (·.1 == "type")
    rw [parts, List.filter_cons_of_pos (by simp), hnone] at hperm
    exact List.perm_singleton.mp hperm
  have hothers : (members.filter (·.1 != "type")).Perm kind.details := by
    have hperm := h.filter (·.1 != "type")
    rwa [parts, List.filter_cons_of_neg (by simp), List.filter_eq_self.mpr hdetails] at hperm
  have hvalue : ((Node.obj (members.map fun m => (some m.1, m.2))).value? depthLimit).isSome := by
    have hparts : ∀ m ∈ members, (m.2.value? (depthLimit - 1)).isSome := fun m hm =>
      parts_value? hfits m (h.mem_iff.mp hm)
    have hmembers := Node.members?_isSome hparts []
    rw [Node.value?, if_neg (by decide), Option.isSome_map]
    exact hmembers
  obtain ⟨v, hv⟩ := Option.isSome_iff_exists.mp hvalue
  have hmapTags : (members.map fun m => (some m.1, m.2)).filter (·.1 == some "type") =
      [(some "type", .str (some kind.tag))] := by
    rw [List.filter_map]
    exact congrArg (List.map _) htags
  have hmapOthers : (members.map fun m => (some m.1, m.2)).filter (·.1 != some "type") =
      (members.filter (·.1 != "type")).map fun m => (some m.1, m.2) := by
    rw [List.filter_map]
    rfl
  rw [ofNode?, hv]
  simp only [Option.bind_eq_bind, Option.bind_some, hmapTags, hmapOthers, Node.text?]
  exact ofParts?_obj hfits hothers

/-- The written form of a check says its parts. -/
theorem spells_toJson (kind : RuleKind) :
    Spells kind.toJson.write (.value (.obj (kind.parts.map fun m => (some m.1, m.2)))) := by
  cases kind with
  | pattern p => exact spells_obj <| .cons ⟨rfl, spells_str _⟩ <| .cons ⟨rfl, spells_str _⟩ .nil
  | dependencyAllowlist => exact spells_obj <| .cons ⟨rfl, spells_str _⟩ .nil
  | resourceLimit metric max =>
    exact spells_obj <| .cons ⟨rfl, spells_str _⟩ <| .cons ⟨rfl, spells_str _⟩ <|
      .cons ⟨rfl, spells_nat max⟩ .nil

end RuleKind

/-! ## Rules -/

/-- A severity is read back from its name. -/
theorem Severity.ofNode?_label (s : Severity) :
    Severity.ofNode? (.str (some s.label)) = some s := by
  cases s <;> decide

/-- What an optional text says. -/
def Json.textNode : Option String → Node
  | some s => .str (some s)
  | none => .null

/-- An optional text is read back, a missing one from `null`. -/
theorem Json.nullable_textNode (s : Option String) :
    Record.nullable Node.text? (textNode s) = some s := by
  cases s <;> rfl

/-- An optional text is spelled as it is written. -/
theorem Json.spells_text? (s : Option String) :
    Spells (Value.text? s).write (.value (textNode s)) := by
  cases s with
  | none => exact spells_null
  | some s => exact spells_str s

namespace Rule

/-- The parts of a rule as they are said, with the given node for its check. -/
def parts (r : Rule) (kind : Node) : List (String × Node) :=
  [("name", .str (some r.name)),
   ("kind", kind),
   ("severity", .str (some r.severity.label)),
   ("error_message", textNode r.message),
   ("enabled", .bool r.enabled),
   ("tenant_id", textNode r.tenant)]

/-- The names of the parts that may be left out. -/
def omissibleNames : List String := ["error_message", "enabled", "tenant_id"]

/-- A rule after parts have been left out. -/
def without (r : Rule) (dropped : List String) : Rule :=
  { r with
    message := if "error_message" ∈ dropped then none else r.message
    enabled := if "enabled" ∈ dropped then true else r.enabled
    tenant := if "tenant_id" ∈ dropped then none else r.tenant }

/-- Members that describe a rule without some of its parts: those with known names are the other
parts in some order, and so are the members of its check. -/
def Describes (r : Rule) (dropped : List String) (members : List (String × Node)) : Prop :=
  ∃ kindMembers : List (String × Node), kindMembers.Perm r.kind.parts ∧
    (members.filter fun m => partNames.contains m.1).Perm
      ((r.parts (.obj (kindMembers.map fun m => (some m.1, m.2)))).filter
        fun m => !dropped.contains m.1)

variable {r : Rule} {dropped : List String} {members : List (String × Node)}

/-- A rule without nothing is the rule. -/
theorem without_nil (r : Rule) : r.without [] = r := by simp [without]

/-- Members that describe a rule without some of its parts are read as the rule with the default
values for these parts. -/
theorem Describes.read (h : r.Describes dropped members) (hfits : r.kind.Fits)
    (hdropped : dropped ⊆ omissibleNames) :
    ofNode? (.obj (members.map fun m => (some m.1, m.2))) = some (r.without dropped) := by
  obtain ⟨kindMembers, hkind, hperm⟩ := h
  have hnames (kind : Node) :
      (((r.parts kind).filter fun m => !dropped.contains m.1).map (·.1)).Nodup :=
    (show partNames.Nodup by decide).sublist (List.filter_sublist.map _)
  obtain ⟨parts, hparts, hlookup⟩ := Record.ofNode?_obj (hnames _) hperm
  have hget (name : String) : parts.get? name = if name ∈ dropped then none else
      (r.parts (.obj (kindMembers.map fun m => (some m.1, m.2)))).lookup name := by
    rw [hlookup, lookup_filter_key fun name => !dropped.contains name]
    by_cases hname : name ∈ dropped <;> simp [hname]
  have hkept (name : String) (hname : name ∉ omissibleNames) : name ∉ dropped :=
    fun hmem => hname (hdropped hmem)
  have hname : parts.get? "name" = some (.str (some r.name)) :=
    (hget "name").trans (if_neg (hkept _ (by decide)))
  have hcheck : parts.get? "kind" = some (.obj (kindMembers.map fun m => (some m.1, m.2))) :=
    (hget "kind").trans (if_neg (hkept _ (by decide)))
  have hseverity : parts.get? "severity" = some (.str (some r.severity.label)) :=
    (hget "severity").trans (if_neg (hkept _ (by decide)))
  have hmessage := Record.withDefault_eq none (hget "error_message") (nullable_textNode r.message)
  have henabled := Record.withDefault_eq true (hget "enabled")
    (show Node.bool? (.bool r.enabled) = some r.enabled from rfl)
  have htenant := Record.withDefault_eq none (hget "tenant_id") (nullable_textNode r.tenant)
  rw [ofNode?, hparts]
  simp only [Option.bind_eq_bind, Option.bind_some, Record.required, hname, hcheck, hseverity, Node.text?,
    RuleKind.ofNode?_obj hfits hkind, Severity.ofNode?_label, Record.omissible, hmessage, henabled,
    htenant]
  rfl

/-- The written form of a rule says its parts. -/
theorem spells_toJson (r : Rule) :
    Spells r.toJson.write (.value (.obj
      ((r.parts (.obj (r.kind.parts.map fun m => (some m.1, m.2)))).map
        fun m => (some m.1, m.2)))) := by
  refine spells_obj ?_
  exact .cons ⟨rfl, spells_str _⟩ <| .cons ⟨rfl, r.kind.spells_toJson⟩ <|
    .cons ⟨rfl, spells_str _⟩ <| .cons ⟨rfl, spells_text? _⟩ <| .cons ⟨rfl, spells_bool _⟩ <|
    .cons ⟨rfl, spells_text? _⟩ .nil

/-- The parts of a rule describe it, none being left out. -/
theorem describes_parts (r : Rule) :
    r.Describes [] (r.parts (.obj (r.kind.parts.map fun m => (some m.1, m.2)))) := by
  refine ⟨r.kind.parts, .refl _, ?_⟩
  have hknown : ∀ m ∈ r.parts (.obj (r.kind.parts.map fun m => (some m.1, m.2))),
      partNames.contains m.1 = true := by simp [parts, partNames]
  have hkept : ∀ m ∈ r.parts (.obj (r.kind.parts.map fun m => (some m.1, m.2))),
      (!([] : List String).contains m.1) = true := by simp
  rw [List.filter_eq_self.mpr hknown, List.filter_eq_self.mpr hkept]

/-- What has been written for a rule is read as that rule. So is any other text of a JSON object
that describes it, and where the message, the switch or the tenant is left out the rule has the
default value there. -/
theorem parse_described (r : Rule) (hfits : r.kind.Fits) :
    (Node.parse r.toJson.toText.toList).bind ofNode? = some r ∧
      ∀ dropped members text, dropped ⊆ omissibleNames → r.Describes dropped members →
        Spells text (.value (.obj (members.map fun m => (some m.1, m.2)))) →
        (Node.parse text).bind ofNode? = some (r.without dropped) := by
  refine ⟨?_, fun dropped members text hdropped h htext => ?_⟩
  · have hread := r.describes_parts.read hfits (List.nil_subset _)
    rw [without_nil] at hread
    rw [Value.toText, String.toList_ofList, parse_spelled r.spells_toJson]
    exact hread
  · rw [parse_spelled htext]
    exact h.read hfits hdropped

/-- A rule with the greatest limit and a message with quotes, for one tenant. The second object
leaves out the switch and the tenant, and has a member more and another order. -/
theorem parse_described_limit :
    let r : Rule :=
      { name := "size", kind := .resourceLimit .charCount 18446744073709551615, severity := .warn,
        message := some "too \"long\"\n", enabled := false, tenant := some "acme" }
    (Node.parse r.toJson.toText.toList).bind ofNode? = some r ∧
      (Node.parse (Value.obj [("note", .arr [.null]),
        ("kind", .obj [("max", .nat 18446744073709551615), ("type", .str "resource_limit"),
          ("metric", .str "char_count")]),
        ("severity", .str "warn"), ("error_message", .str "too \"long\"\n"),
        ("name", .str "size")]).write).bind ofNode? =
      some { r with enabled := true, tenant := none } := by
  intro r
  have hfits : r.kind.Fits := by
    rintro metric max hkind
    cases hkind
    decide
  obtain ⟨hwritten, hdescribed⟩ := r.parse_described hfits
  refine ⟨hwritten, hdescribed ["enabled", "tenant_id"] [("note", .arr [.null]),
    ("kind", .obj [(some "max", .num (.ofNat 18446744073709551615)),
      (some "type", .str (some "resource_limit")), (some "metric", .str (some "char_count"))]),
    ("severity", .str (some "warn")), ("error_message", .str (some "too \"long\"\n")),
    ("name", .str (some "size"))] _ (by decide) ?_ ?_⟩
  · refine ⟨[("max", .num (.ofNat 18446744073709551615)), ("type", .str (some "resource_limit")),
      ("metric", .str (some "char_count"))], ?_, ?_⟩
    · exact @List.perm_append_comm _ [_] [_, _]
    · exact @List.perm_append_comm _ [_, _, _] [_]
  · refine spells_obj ?_
    exact .cons ⟨rfl, spells_arr (.cons spells_null .nil)⟩ <|
      .cons ⟨rfl, spells_obj <| .cons ⟨rfl, spells_nat _⟩ <|
        .cons ⟨rfl, spells_str _⟩ <| .cons ⟨rfl, spells_str _⟩ .nil⟩ <|
      .cons ⟨rfl, spells_str _⟩ <| .cons ⟨rfl, spells_str _⟩ <| .cons ⟨rfl, spells_str _⟩ .nil

end Rule

end ArtifactPipeline
