import DocPages.Proofs.PageClasses
import DocPages.Proofs.SearchLinks

/-! What the page of a type shows of the records. Its cards are compared with the records
themselves: each field, property and method of the type has one card, by name, and records of one
name keep their order, as methods do with the anchors that they got before they were sorted. -/
namespace DocPages.MemberCards
open Catalogue CatalogueGrouping Page PageClasses SearchLinks Text

/-! ## The texts of badges, cards and sections -/

def memberName (record : Record) : String :=
  record.identifier.member.getD ""

/-- The card of a field or a property. -/
def valueCard (record : Record) : String :=
  "  <div class=\"member-card\"><h4><code>" ++ Html.escape (memberName record) ++
  "</code></h4><p>" ++ Html.escape record.summary ++ "</p></div>\n"

/-- The card of a method with its own signature, parameters, result and remarks. -/
def methodText (record : Record) (anchor : String) : String :=
  "<div class=\"method-card\" id=\"" ++ Html.escape anchor ++
  "\">\n<div class=\"method-header\">\n  <h4><code>" ++ Html.escape (memberName record) ++
  "</code><span class=\"signature\">" ++ Html.escape (record.identifier.signature.getD "") ++
  "</span></h4>\n  <a href=\"#" ++ Html.escape anchor ++
  "\" class=\"anchor-link\">#</a>\n</div>\n<p class=\"method-summary\">" ++
  Html.escape record.summary ++ "</p>\n" ++ paramsText record.params ++
  sectionText "<div class=\"returns-section\"><h5>Returns</h5><p>" record.returns ++
  sectionText "<div class=\"remarks-section\"><h5>Remarks</h5><p>" record.remarks ++ "</div>\n"

/-- A badge says how many members of a sort there are, if there are any. -/
def badgeText (count : Nat) (place style label : String) : String :=
  if count = 0 then ""
  else
    "  <a href=\"#" ++ place ++ "\" class=\"badge " ++ style ++ "\">" ++ count.repr ++
    " " ++ label ++ "</a>\n"

/-- The section of fields or of properties, if there are any. -/
def valueSection (place title : String) (records : List Record) : String :=
  if records = [] then ""
  else
    "<section id=\"" ++ place ++ "\" class=\"member-section\">\n<h3>" ++ title ++
    "</h3>\n<div class=\"member-grid\">\n" ++ String.join (records.map valueCard) ++
    "</div>\n</section>\n"

/-- The section of methods, each with its anchor, if there are any. -/
def methodsSection (methods : List (Record × String)) : String :=
  if methods = [] then ""
  else
    "<section id=\"methods\" class=\"member-section\">\n<h3>Methods</h3>\n" ++
    String.join (methods.map fun (record, anchor) => methodText record anchor) ++ "</section>\n"

/-- What stands on the page of a type above the badges: nothing of its members. -/
def aboveBadges (catalogue : Catalogue) (type : TypeEntry) (options : Options) : String :=
  (opening options (type.simpleName ++ " - " ++ options.title)).render ++
  (banner options [.markup "<p><a ", .link "index.html",
    .markup " class=\"back-link\">&larr; Back to index</a></p>"]).render ++
  sidebarStart.render ++ (typeList catalogue type).render ++ (typeHeader type).render

def belowSections : String :=
  "</main>\n</div>\n" ++ closing.render

theorem memberCard_render (record : Record) :
    (memberCard (.ofRecord record)).render = valueCard record := by
  unfold memberCard valueCard
  simp only [memberName, ValueEntry.ofRecord, Html.render_cons, Html.render_nil,
    Html.Piece.render, String.append_empty, String.append_assoc]

theorem methodCard_of_record (record : Record) (anchor : String) :
    (methodCard (.ofRecord record) anchor).render = methodText record anchor := by
  have idStart : "<div class=\"method-card\" id=\"" =
      "<div class=\"method-card\" " ++ "id=\"" := rfl
  have idEnd : "\">\n<div class=\"method-header\">\n  <h4><code>" =
      "\"" ++ ">\n<div class=\"method-header\">\n  <h4><code>" := rfl
  have linkStart : "</span></h4>\n  <a href=\"#" =
      "</span></h4>\n  <a " ++ ("href=\"" ++ "#") := rfl
  have linkEnd : "\" class=\"anchor-link\">#</a>\n</div>\n<p class=\"method-summary\">" =
      "\"" ++ " class=\"anchor-link\">#</a>\n</div>\n<p class=\"method-summary\">" := rfl
  rw [methodCard_render]
  unfold cardText methodText
  simp only [MethodEntry.ofRecord, memberName, idStart, idEnd, linkStart, linkEnd,
    String.append_assoc]

theorem badge_render (count : Nat) (place style label : String)
    (plain : Html.escape place = place) :
    (badge count place style label).render = badgeText count place style label := by
  have hash : Html.escape ("#" ++ place) = "#" ++ place := by
    rw [Escaping.escape_place, plain]
  have linkStart : "  <a href=\"#" = "  <a " ++ ("href=\"" ++ "#") := rfl
  have linkEnd : "\" class=\"badge " = "\"" ++ " class=\"badge " := rfl
  unfold badge badgeText
  split
  · rfl
  · simp only [hash, linkStart, linkEnd, Escaping.escape_number, Html.render_cons,
      Html.render_nil, Html.Piece.render, String.append_empty, String.append_assoc]

/-- The badges for numbers of fields, properties and methods. -/
def badgesText (fields properties methods : Nat) : String :=
  "<div class=\"summary-badges\">\n" ++ badgeText fields "fields" "badge-field" "Fields" ++
  badgeText properties "properties" "badge-property" "Properties" ++
  badgeText methods "methods" "badge-method" "Methods" ++ "</div>\n"

theorem badges_render (type : TypeEntry) : (badges type).render =
    badgesText type.fields.length type.properties.length type.methods.length := by
  have fields := badge_render type.fields.length "fields" "badge-field" "Fields"
    (Escaping.escape_plain rfl)
  have properties := badge_render type.properties.length "properties" "badge-property"
    "Properties" (Escaping.escape_plain rfl)
  have methods := badge_render type.methods.length "methods" "badge-method" "Methods"
    (Escaping.escape_plain rfl)
  unfold badges badgesText
  simp only [Html.render_append, fields, properties, methods, Html.render_cons, Html.render_nil,
    Html.Piece.render, String.append_empty]

/-! ## Sections of records -/

theorem cardSection_render (records : List Record) (place title : String)
    (plain : Html.escape place = place) (plainTitle : Html.escape title = title) :
    (cardSection place title (records.map .ofRecord)).render =
      valueSection place title (sortBy memberName records) := by
  have sorted : sortedMembers (records.map .ofRecord) =
      (sortBy memberName records).map .ofRecord :=
    (map_sortBy (fun _ => rfl) records).symm
  have idStart : "<section id=\"" = "<section " ++ "id=\"" := rfl
  have idEnd : "\" class=\"member-section\">\n<h3>" =
      "\"" ++ " class=\"member-section\">\n<h3>" := rfl
  unfold cardSection valueSection
  by_cases vacant : records = []
  · rw [if_pos (by simpa using vacant), if_pos (by simpa using vacant)]
    rfl
  · rw [if_neg (by simpa using vacant), if_neg (by simpa using vacant), sorted,
      Html.render_append, Html.render_append, List.flatMap_map, Html.render_flatMap]
    simp only [memberCard_render, plain, plainTitle, idStart, idEnd, Html.render_cons,
      Html.render_nil, Html.Piece.render, String.append_empty, String.append_assoc]

/-- The methods with the anchors that they get in the order of the document. -/
def anchored (records : List Record) : List (Record × String) :=
  records.zip (Address.anchors (records.map memberName))

/-- The methods by name, each with its anchor. -/
def methodsByName (records : List Record) : List (Record × String) :=
  sortBy (fun (record, _) => memberName record) (anchored records)

theorem length_methodsByName (records : List Record) :
    (methodsByName records).length = records.length := by
  simp [methodsByName, anchored, SafeNames.length_anchors]

theorem anchoredMethods_of_records (type : TypeEntry) (records : List Record)
    (own : type.methods = records.map .ofRecord) :
    type.anchoredMethods = (anchored records).map fun (record, anchor) =>
      (.ofRecord record, anchor) := by
  have names : type.methods.map (·.name) = records.map memberName := by
    rw [own, List.map_map]
    rfl
  rw [TypeEntry.anchoredMethods, names, own, anchored, List.zip_map_left]
  rfl

theorem sortedMethods_of_records (type : TypeEntry) (records : List Record)
    (own : type.methods = records.map .ofRecord) :
    sortedMethods type = (methodsByName records).map fun (record, anchor) =>
      (.ofRecord record, anchor) := by
  rw [sortedMethods, anchoredMethods_of_records type records own]
  exact (map_sortBy (fun _ => rfl) (anchored records)).symm

theorem methodSection_render (type : TypeEntry) (records : List Record)
    (own : type.methods = records.map .ofRecord) :
    (methodSection type).render = methodsSection (methodsByName records) := by
  have cards : (cards type).render =
      String.join ((methodsByName records).map fun (record, anchor) => methodText record anchor) := by
    rw [SearchLinks.cards, sortedMethods_of_records type records own, List.flatMap_map,
      Html.render_flatMap]
    simp only [methodCard_of_record]
  rw [SearchLinks.cards] at cards
  have plain : Html.escape "methods" = "methods" := Escaping.escape_plain rfl
  have start : "<section id=\"methods\" class=\"member-section\">\n<h3>Methods</h3>\n" =
      "<section " ++ ("id=\"" ++ ("methods" ++ ("\"" ++
        " class=\"member-section\">\n<h3>Methods</h3>\n"))) := rfl
  have none : methodsByName records = [] ↔ records = [] := by
    rw [← List.length_eq_zero_iff, length_methodsByName, List.length_eq_zero_iff]
  unfold methodSection methodsSection
  by_cases vacant : records = []
  · rw [if_pos (by simp [own, vacant]), if_pos (none.mpr vacant)]
    rfl
  · rw [if_neg (by simp [own, vacant]), if_neg (mt none.mp vacant), Html.render_append,
      Html.render_append, cards]
    simp only [plain, start, Html.render_cons, Html.render_nil, Html.Piece.render,
      String.append_empty, String.append_assoc]

/-! ## The page -/

theorem ofType_render (catalogue : Catalogue) (options : Options) (type : TypeEntry)
    (fields properties methods : List Record)
    (ownFields : type.fields = fields.map .ofRecord)
    (ownProperties : type.properties = properties.map .ofRecord)
    (ownMethods : type.methods = methods.map .ofRecord) :
    (Page.ofType catalogue type options).render = aboveBadges catalogue type options ++
      badgesText fields.length properties.length methods.length ++
      valueSection "fields" "Fields" (sortBy memberName fields) ++
      valueSection "properties" "Properties" (sortBy memberName properties) ++
      methodsSection (methodsByName methods) ++ belowSections := by
  have fieldSection := cardSection_render fields "fields" "Fields" (Escaping.escape_plain rfl)
    (Escaping.escape_plain rfl)
  have propertySection := cardSection_render properties "properties" "Properties"
    (Escaping.escape_plain rfl) (Escaping.escape_plain rfl)
  have below : Html.render [.markup "</main>\n</div>\n"] ++ closing.render = belowSections := rfl
  rw [Page.ofType, ownFields, ownProperties]
  simp only [Html.render_append, badges_render, fieldSection, propertySection,
    methodSection_render type methods ownMethods, ownFields, ownProperties, ownMethods,
    List.length_map, ← below, aboveBadges, String.append_assoc]

theorem owner_of_classified (held : record ∈ records) (classified : isClassified record) :
    ((ofRecords records).get? record.identifier.owner).isSome := by
  have first : (firstOf? record.identifier.owner records).isSome :=
    (isSome_firstOf _ _).mpr (mem_owners_iff.mpr ⟨record, held, classified, rfl⟩)
  simpa [get_ofRecords, group?] using first

/-- Every record of a member is on the page of its owner and on no other one. The page shows the
fields, the properties and the methods of its type in sections of their own, each by name and those
of one name in the order of the records, with one card for each record; a method's card has the
anchor that the method got in the order of the records. A section and its badge are there exactly if
there is something to show, the badge tells the number of cards, and a reader of the page finds no
other cards on it. -/
theorem page_shows_every_member_once (records : List Record) (options : Options) :
    let catalogue := ofRecords records
    (∀ record ∈ records, isClassified record →
      (catalogue.get? record.identifier.owner).isSome) ∧
    ∀ owner type, catalogue.get? owner = some type →
      let page := (Page.ofType catalogue type options).render
      ∃ (fields properties : List Record) (methods : List (Record × String)),
        SortedBy memberName (recordsOf .field owner records) fields ∧
        SortedBy memberName (recordsOf .property owner records) properties ∧
        SortedBy (fun (record, _) => memberName record)
          (anchored (recordsOf .method owner records)) methods ∧
        page = aboveBadges catalogue type options ++
          badgesText fields.length properties.length methods.length ++
          valueSection "fields" "Fields" fields ++
          valueSection "properties" "Properties" properties ++ methodsSection methods ++
          belowSections ∧
        shownOn page = badgeClasses "badge-field" fields.length ++
          badgeClasses "badge-property" properties.length ++
          badgeClasses "badge-method" methods.length ++
          sectionClasses "member-card" fields.length ++
          sectionClasses "member-card" properties.length ++
          sectionClasses "method-card" methods.length := by
  intro catalogue
  refine ⟨fun record held classified => owner_of_classified held classified, ?_⟩
  intro owner type found page
  rw [get_ofRecords] at found
  obtain ⟨first, _, rfl⟩ := Option.map_eq_some_iff.mp found
  refine ⟨sortBy memberName (recordsOf .field owner records),
    sortBy memberName (recordsOf .property owner records),
    methodsByName (recordsOf .method owner records), sortBy_sortedBy _ _, sortBy_sortedBy _ _,
    sortBy_sortedBy _ _, ?_, ?_⟩
  · simp only [length_sortBy, length_methodsByName]
    exact ofType_render catalogue options _ _ _ _ rfl rfl rfl
  · simp only [page, shownOn_ofType, described, List.length_map, length_sortBy,
      length_methodsByName]

def bodyRecord (kind : Kind) (member : String) (signature? : Option String) (summary : String) :
    Record :=
  ⟨⟨kind, "Col.Body", some member, signature?, "Col"⟩, summary, "", "", "", []⟩

def mass : Record := bodyRecord .field "Mass" none "In kilos."

def size : Record := bodyRecord .field "Size" none ""

def jump : Record := bodyRecord .method "Jump" (some "") ""

def move : Record := bodyRecord .method "Move" (some "(System.Int32)") "Moves."

def slowMove : Record := bodyRecord .method "Move" (some "(System.Single)") "Slow."

def otherMove : Record := ⟨⟨.method, "Other", some "Move", none, ""⟩, "", "", "", "", []⟩

/-- Two overloads with another method between them, and two fields against the order of names. -/
def overloadRecords : List Record :=
  [move, size, jump, mass, otherMove, slowMove]

theorem overloads_have_a_card_each :
    let catalogue := ofRecords overloadRecords
    let type := described "Col" "Col.Body" overloadRecords
    let page := (Page.ofType catalogue type {}).render
    catalogue.get? "Col.Body" = some type ∧ (catalogue.get? "Other").isSome ∧
      page = aboveBadges catalogue type {} ++ badgesText 2 0 3 ++
        valueSection "fields" "Fields" [mass, size] ++ valueSection "properties" "Properties" [] ++
        methodsSection [(jump, "Jump"), (move, "Move"), (slowMove, "Move-2")] ++ belowSections ∧
      shownOn page = ["badge badge-field", "badge badge-method", "member-section", "member-card",
        "member-card", "member-section", "method-card", "method-card", "method-card"] := by
  intro catalogue type page
  have held : catalogue.get? "Col.Body" = some type := by decide +kernel
  obtain ⟨owned, pages⟩ := page_shows_every_member_once overloadRecords {}
  obtain ⟨fields, properties, methods, byName, byName', byName'', text, shown⟩ :=
    pages "Col.Body" type held
  have fieldsHere : fields = [mass, size] := by
    have given : recordsOf .field "Col.Body" overloadRecords = [size, mass] := by decide +kernel
    have ordered : [mass, size].Pairwise fun a b => inOrder (memberName a) (memberName b) := by
      decide +kernel
    rw [given] at byName
    refine byName.unique ⟨List.Perm.swap _ _ _, ordered.imp inOrder_iff.mp, fun shared => ?_⟩
    grind [mass, size, bodyRecord, memberName]
  have propertiesHere : properties = [] := by
    have given : recordsOf .property "Col.Body" overloadRecords = [] := by decide +kernel
    rw [given] at byName'
    exact List.perm_nil.mp byName'.perm
  have methodsHere : methods = [(jump, "Jump"), (move, "Move"), (slowMove, "Move-2")] := by
    have given : anchored (recordsOf .method "Col.Body" overloadRecords) =
        [(move, "Move"), (jump, "Jump"), (slowMove, "Move-2")] := by decide +kernel
    have ordered : [(jump, "Jump"), (move, "Move"), (slowMove, "Move-2")].Pairwise fun a b =>
        inOrder (memberName a.1) (memberName b.1) := by decide +kernel
    rw [given] at byName''
    refine byName''.unique ⟨List.Perm.swap _ _ _, ordered.imp inOrder_iff.mp, fun shared => ?_⟩
    grind [move, jump, slowMove, bodyRecord, memberName]
  subst fieldsHere propertiesHere methodsHere
  exact ⟨held, owned otherMove (by decide +kernel) (by decide +kernel), text,
    shown.trans (by decide +kernel)⟩

end DocPages.MemberCards
