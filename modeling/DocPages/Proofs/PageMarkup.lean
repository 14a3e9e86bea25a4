import DocPages.Page.Type
import DocPages.Proofs.CatalogueGrouping
import DocPages.Proofs.Escaping
import DocPages.Proofs.SafeNames

/-! No documented text changes the markup around it. A page is compared with its skeleton, which has
the same pieces with nothing said in them: the skeleton alone decides the marks of the page, and the
shape of what is documented decides the skeleton. -/
namespace DocPages.PageMarkup
open Catalogue CatalogueConsistency CatalogueGrouping Page

/-! ## Skeletons -/

/-- The characters that open and close tags and the values of attributes. -/
def isMark (c : Char) : Bool :=
  c = '<' ∨ c = '>' ∨ c = '"'

def marks (s : String) : List Char :=
  s.toList.filter isMark

/-- The piece with nothing said in it. -/
def blank : Html.Piece → Html.Piece
  | .markup s => .markup s
  | .text _ => .text ""
  | .anchor _ => .anchor ""
  | .link _ => .link ""

def skeleton (html : Html) : Html :=
  html.map blank

theorem marks_escape (s : String) : marks (Html.escape s) = [] := by
  rw [marks, Html.escape, String.toList_ofList, List.filter_eq_nil_iff]
  intro c held
  obtain ⟨unopened, unclosed, unquoted, _⟩ := Escaping.escapeChars_unmarked s.toList c held
  simp [isMark, unopened, unclosed, unquoted]

theorem marks_append (first second : String) :
    marks (first ++ second) = marks first ++ marks second := by
  simp [marks]

theorem marks_blank (piece : Html.Piece) : marks (blank piece).render = marks piece.render := by
  cases piece <;> simp [blank, Html.Piece.render, marks_append, marks_escape]

theorem marks_render (html : Html) : marks html.render = html.flatMap fun piece =>
    marks piece.render := by
  simp [marks, Html.render, List.filter_flatMap, List.flatMap_map]

/-- The skeleton of a page has all of its marks. -/
theorem marks_skeleton (html : Html) : marks (skeleton html).render = marks html.render := by
  simp [marks_render, skeleton, List.flatMap_map, marks_blank]

@[simp] theorem skeleton_append (first second : Html) :
    skeleton (first ++ second) = skeleton first ++ skeleton second := by
  simp [skeleton]

/-- Parts that stand for one entry each have the same skeletons for two lists if the skeleton of
such a part depends on the shape of its entry and the entries' shapes are the same. -/
theorem skeleton_flatMap (shape : Entry → Shape) (shape' : Entry' → Shape)
    (alike : ∀ x y, shape x = shape' y → skeleton (part x) = skeleton (part' y))
    {entries : List Entry} {entries' : List Entry'}
    (same : entries.map shape = entries'.map shape') :
    skeleton (entries.flatMap part) = skeleton (entries'.flatMap part') := by
  induction entries generalizing entries' with
  | nil =>
    cases entries' with
    | nil => rfl
    | cons y ys => simp at same
  | cons x xs ih =>
    cases entries' with
    | nil => simp at same
    | cons y ys =>
      simp only [List.map_cons, List.cons.injEq] at same
      simp only [List.flatMap_cons, skeleton_append, alike x y same.1, ih same.2]

/-- It is enough to count the entries if such parts have one skeleton. -/
theorem skeleton_flatMap_of_length {part : Entry → Html} {part' : Entry' → Html}
    (alike : ∀ x y, skeleton (part x) = skeleton (part' y))
    {entries : List Entry} {entries' : List Entry'} (same : entries.length = entries'.length) :
    skeleton (entries.flatMap part) = skeleton (entries'.flatMap part') := by
  apply skeleton_flatMap (fun _ => ()) (fun _ => ())
  · exact fun x y _ => alike x y
  · simp [List.map_const', same]

private theorem isEmpty_of_length {entries : List Entry} {entries' : List Entry'}
    (same : entries.length = entries'.length) : entries.isEmpty = entries'.isEmpty := by
  rw [Bool.eq_iff_iff, List.isEmpty_iff_length_eq_zero, List.isEmpty_iff_length_eq_zero, same]

theorem skeleton_unlessEmpty (s : String) (html : Html) :
    skeleton (unlessEmpty s html) = if decide (s = "") then [] else skeleton html := by
  by_cases vacant : s = "" <;> simp [unlessEmpty, vacant, skeleton]

/-! ## Members -/

theorem skeleton_cardSection (place title : String) {members members' : List ValueEntry}
    (same : members.length = members'.length) :
    skeleton (cardSection place title members) = skeleton (cardSection place title members') := by
  have cards : skeleton ((sortedMembers members).flatMap memberCard) =
      skeleton ((sortedMembers members').flatMap memberCard) := by
    apply skeleton_flatMap_of_length
    · exact fun _ _ => rfl
    · simp [sortedMembers, same]
  rw [cardSection, cardSection, isEmpty_of_length same]
  split
  · rfl
  · simp only [skeleton_append, cards]

/-- What of a method decides the markup of its card. -/
structure MethodShape where
  params : Nat
  returnsNothing : Bool
  remarksNothing : Bool
  deriving DecidableEq, Repr

def methodShape (method : MethodEntry) : MethodShape where
  params := method.params.length
  returnsNothing := method.returns = ""
  remarksNothing := method.remarks = ""

theorem skeleton_paramTable {params params' : List Parameter}
    (same : params.length = params'.length) :
    skeleton (paramTable params) = skeleton (paramTable params') := by
  have rows : skeleton (params.flatMap paramRow) = skeleton (params'.flatMap paramRow) := by
    apply skeleton_flatMap_of_length
    · exact fun _ _ => rfl
    · exact same
  rw [paramTable, paramTable, isEmpty_of_length same]
  split
  · rfl
  · simp only [skeleton_append, rows]

theorem skeleton_methodCard {method method' : MethodEntry} (place place' : String)
    (same : methodShape method = methodShape method') :
    skeleton (methodCard method place) = skeleton (methodCard method' place') := by
  simp only [methodShape, MethodShape.mk.injEq] at same
  obtain ⟨params, returns, remarks⟩ := same
  simp only [methodCard, skeleton_append, skeleton_unlessEmpty, skeleton_paramTable params,
    returns, remarks]
  rfl

/-- The shapes of the methods, in the order of their cards. -/
def methodShapes (type : TypeEntry) : List MethodShape :=
  (sortedMethods type).map fun (method, _) => methodShape method

theorem length_methodShapes (type : TypeEntry) :
    (methodShapes type).length = type.methods.length := by
  simp [methodShapes, sortedMethods, TypeEntry.anchoredMethods, SafeNames.length_anchors]

theorem skeleton_methodSection {type type' : TypeEntry}
    (same : methodShapes type = methodShapes type') :
    skeleton (methodSection type) = skeleton (methodSection type') := by
  have cards : skeleton ((sortedMethods type).flatMap fun (method, place) =>
      methodCard method place) = skeleton ((sortedMethods type').flatMap fun (method, place) =>
      methodCard method place) :=
    skeleton_flatMap _ _ (fun _ _ alike => skeleton_methodCard _ _ alike) same
  have count : type.methods.length = type'.methods.length := by
    rw [← length_methodShapes, same, length_methodShapes]
  rw [methodSection, methodSection, isEmpty_of_length count]
  split
  · rfl
  · simp only [skeleton_append, cards]

/-! ## The page of a type -/

/-- What decides the markup of a type's page. -/
structure TypeShape where
  types : Nat
  /-- The place of the type among all types by name. -/
  place : Nat
  isGlobal : Bool
  remarksNothing : Bool
  showsNothing : Bool
  fields : Nat
  properties : Nat
  methods : List MethodShape
  deriving DecidableEq, Repr

def typeShape (catalogue : Catalogue) (type : TypeEntry) : TypeShape where
  types := catalogue.size
  place := (catalogue.typesByName.map TypeEntry.fullName).idxOf type.fullName
  isGlobal := type.namespaceName = ""
  remarksNothing := type.remarks = ""
  showsNothing := type.exampleText = ""
  fields := type.fields.length
  properties := type.properties.length
  methods := methodShapes type

/-- A name that occurs once is marked at its place and nowhere else. -/
theorem marked_at_place {names : List String} (distinct : names.Nodup) (shown : String) :
    names.map (fun name => decide (name = shown)) =
      (List.range names.length).map fun place => decide (place = names.idxOf shown) := by
  apply List.ext_getElem
  · simp
  · intro place within _
    rw [List.length_map] at within
    simp only [List.getElem_map, List.getElem_range, decide_eq_decide]
    constructor
    · intro same
      rw [← same, distinct.idxOf_getElem place within]
    · rintro rfl
      exact List.getElem_idxOf within

theorem typesByName_distinct (consistent : Consistent catalogue) :
    (catalogue.typesByName.map TypeEntry.fullName).Nodup :=
  ((Text.sortBy_perm _ _).map _).nodup_iff.mpr consistent.distinct

theorem skeleton_typeList (consistent : Consistent catalogue) (consistent' : Consistent catalogue')
    (count : catalogue.size = catalogue'.size)
    (place : (typeShape catalogue type).place = (typeShape catalogue' type').place) :
    skeleton (typeList catalogue type) = skeleton (typeList catalogue' type') := by
  have marked := marked_at_place (typesByName_distinct consistent) type.fullName
  have marked' := marked_at_place (typesByName_distinct consistent') type'.fullName
  have listed : catalogue.typesByName.length = catalogue'.typesByName.length := by
    simpa [typesByName, size] using count
  simp only [typeShape] at place
  rw [place, List.length_map, listed] at marked
  rw [List.length_map] at marked'
  have same := marked.trans marked'.symm
  simp only [List.map_map] at same
  simp only [typeList, skeleton_append]
  congr 2
  refine skeleton_flatMap _ _ (fun other other' alike => ?_) same
  simp only [Function.comp_apply, decide_eq_decide] at alike
  simp only [alike]
  rfl

theorem skeleton_breadcrumb {type type' : TypeEntry}
    (same : decide (type.namespaceName = "") = decide (type'.namespaceName = "")) :
    skeleton (breadcrumb type) = skeleton (breadcrumb type') := by
  simp only [breadcrumb, skeleton_append, skeleton_unlessEmpty, same]
  rfl

theorem skeleton_typeHeader {type type' : TypeEntry}
    (isGlobal : decide (type.namespaceName = "") = decide (type'.namespaceName = ""))
    (remarks : decide (type.remarks = "") = decide (type'.remarks = ""))
    (shown : decide (type.exampleText = "") = decide (type'.exampleText = "")) :
    skeleton (typeHeader type) = skeleton (typeHeader type') := by
  simp only [typeHeader, skeleton_append, skeleton_breadcrumb isGlobal, skeleton_unlessEmpty,
    isGlobal, remarks, shown]
  rfl

/-- The shape decides the skeleton of the page, whatever the options are. -/
theorem skeleton_ofType (consistent : Consistent catalogue) (consistent' : Consistent catalogue')
    (same : typeShape catalogue type = typeShape catalogue' type') (options options' : Options) :
    skeleton (Page.ofType catalogue type options) =
      skeleton (Page.ofType catalogue' type' options') := by
  have place := congrArg TypeShape.place same
  simp only [typeShape, TypeShape.mk.injEq] at same
  obtain ⟨types, _, isGlobal, remarks, shown, fields, properties, methods⟩ := same
  have count : type.methods.length = type'.methods.length := by
    rw [← length_methodShapes, methods, length_methodShapes]
  simp only [Page.ofType, badges, skeleton_append,
    skeleton_typeList consistent consistent' types place,
    skeleton_typeHeader isGlobal remarks shown, skeleton_cardSection _ _ fields,
    skeleton_cardSection _ _ properties, skeleton_methodSection methods, fields, properties, count]
  rfl

/-! ## The overview -/

/-- What decides the markup of the overview. -/
structure OverviewShape where
  /-- Of each type, by name, whether it is in the global namespace. -/
  globals : List Bool
  /-- How many types each namespace has, by its name. -/
  groups : List Nat
  deriving DecidableEq, Repr

def overviewShape (catalogue : Catalogue) : OverviewShape where
  globals := catalogue.typesByName.map fun type => decide (type.namespaceName = "")
  groups := catalogue.namespaces.toList.map fun (_, owners) => owners.length

theorem skeleton_typeLine (type type' : TypeEntry)
    (same : decide (type.namespaceName = "") = decide (type'.namespaceName = "")) :
    skeleton (typeLine type) = skeleton (typeLine type') := by
  rw [decide_eq_decide] at same
  simp only [typeLine, skeleton_append, same]
  split <;> rfl

theorem skeleton_navGroup (group group' : NavGroup)
    (same : group.items.length = group'.items.length) :
    skeleton group.html = skeleton group'.html := by
  simp only [NavGroup.html, skeleton_append]
  congr 2
  apply skeleton_flatMap_of_length
  · exact fun _ _ => rfl
  · exact same

/-- The sizes of the groups in the second tab. -/
theorem groups_of_shape (catalogue : Catalogue) :
    (navGroups catalogue).map (·.items.length) = (overviewShape catalogue).groups ++
      match (overviewShape catalogue).globals.count true with
      | 0 => []
      | count => [count] := by
  have counted : (overviewShape catalogue).globals.count true =
      (catalogue.typesByName.filter (·.namespaceName == "")).length := by
    rw [← List.countP_eq_length_filter, overviewShape, List.count, List.countP_map]
    congr 1
    funext type
    by_cases within : type.namespaceName = "" <;> simp [within]
  rw [counted, navGroups, List.map_append, globalGroups]
  congr 1
  · simp [namespaceGroups, overviewShape]
  · cases catalogue.typesByName.filter (·.namespaceName == "") <;> simp

theorem skeleton_overview (same : overviewShape catalogue = overviewShape catalogue')
    (options options' : Options) :
    skeleton (overview catalogue options) = skeleton (overview catalogue' options') := by
  have lines : skeleton (catalogue.typesByName.flatMap typeLine) =
      skeleton (catalogue'.typesByName.flatMap typeLine) :=
    skeleton_flatMap _ _ skeleton_typeLine (congrArg OverviewShape.globals same)
  have groups : skeleton ((navGroups catalogue).flatMap NavGroup.html) =
      skeleton ((navGroups catalogue').flatMap NavGroup.html) := by
    apply skeleton_flatMap _ _ skeleton_navGroup
    rw [groups_of_shape, groups_of_shape, same]
  simp only [overview, skeleton_append, lines, groups]
  rfl

/-- Pages of the same shape have the same marks in the same order, whatever names, texts, titles
and themes go into them: nothing that is documented opens or closes a tag or leaves an attribute. -/
theorem shape_decides_marks (records records' : List Record) (options options' : Options) :
    let catalogue := ofRecords records
    let catalogue' := ofRecords records'
    (∀ type ∈ catalogue.types, ∀ type' ∈ catalogue'.types,
      typeShape catalogue type = typeShape catalogue' type' →
        marks (Page.ofType catalogue type options).render =
          marks (Page.ofType catalogue' type' options').render) ∧
    (overviewShape catalogue = overviewShape catalogue' →
      marks (overview catalogue options).render = marks (overview catalogue' options').render) := by
  intro catalogue catalogue'
  constructor
  · intro type _ type' _ same
    rw [← marks_skeleton, ← marks_skeleton (Page.ofType catalogue' type' options'),
      skeleton_ofType (ofRecords_consistent records) (ofRecords_consistent records') same]
  · intro same
    rw [← marks_skeleton, ← marks_skeleton (overview catalogue' options'),
      skeleton_overview same]

/-- A documentation of two types without any special characters. -/
def quietRecords : List Record :=
  [⟨⟨.type, "App.Door", none, none, "App"⟩, "A door.", "Heavy.", "", "", []⟩,
   ⟨⟨.method, "App.Door", some "Knock", none, "App"⟩, "Knocks.", "Twice.", "", "", []⟩,
   ⟨⟨.method, "App.Door", some "Open", some "(System.Int32)", "App"⟩, "Opens.", "", "", "Success.",
     [⟨"width", "How far."⟩]⟩,
   ⟨⟨.field, "Bell", some "tone", none, ""⟩, "The tone.", "", "", "", []⟩]

/-- One of the same shape, in which names and texts try to break out of the page. -/
def loudRecords : List Record :=
  [⟨⟨.type, "App.\"><b>", none, none, "App.\">"⟩, "</p><script>", "&lt;b&gt;", "", "", []⟩,
   ⟨⟨.method, "App.\"><b>", some "#\">", none, "App"⟩, "-->", "<\u0000>", "", "", []⟩,
   ⟨⟨.method, "App.\"><b>", some "<op>", some "(\"'>)", "other"⟩, "</div>", "", "", "</section>",
     [⟨"\" onclick=\"", "<!--"⟩]⟩,
   ⟨⟨.field, "Bell' id='x", some "<", none, ""⟩, "\"", "", "", "", []⟩]

theorem loud_records_keep_the_marks :
    let quiet := ofRecords quietRecords
    let loud := ofRecords loudRecords
    let type := described "App" "App.Door" quietRecords
    let type' := described "App.\">" "App.\"><b>" loudRecords
    let options : Options := { title := "</title>\"", theme := .dark }
    type ∈ quiet.types ∧ type' ∈ loud.types ∧ typeShape quiet type = typeShape loud type' ∧
      overviewShape quiet = overviewShape loud ∧
      marks (Page.ofType quiet type {}).render = marks (Page.ofType loud type' options).render ∧
      marks (overview quiet {}).render = marks (overview loud options).render := by
  intro quiet loud type type' options
  have held : type ∈ quiet.types := by decide +kernel
  have held' : type' ∈ loud.types := by decide +kernel
  have sorted : quiet.typesByName = quiet.types.toList ∧ loud.typesByName = loud.types.toList :=
    ⟨Text.sortBy_of_ordered (by decide +kernel), Text.sortBy_of_ordered (by decide +kernel)⟩
  have cards : sortedMethods type = type.anchoredMethods ∧
      sortedMethods type' = type'.anchoredMethods :=
    ⟨Text.sortBy_of_ordered (by decide +kernel), Text.sortBy_of_ordered (by decide +kernel)⟩
  have shape : typeShape quiet type = typeShape loud type' := by
    simp only [typeShape, methodShapes, sorted, cards]
    decide +kernel
  have shapes : overviewShape quiet = overviewShape loud := by
    simp only [overviewShape, sorted]
    decide +kernel
  obtain ⟨pages, overviews⟩ := shape_decides_marks quietRecords loudRecords {} options
  exact ⟨held, held', shape, shapes, pages type held type' held' shape, overviews shapes⟩

end DocPages.PageMarkup
