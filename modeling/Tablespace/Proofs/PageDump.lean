import Tablespace.Command.Basic
import Tablespace.Proofs.LeftEdge
import Tablespace.Proofs.RecordWalk

/-!
# The dump of a page never fails

A dump reads the page itself, the data dictionary for the columns of an index page, and the records
of the page. Errors of the data dictionary only cost the columns, errors of the records and of their
chain become entries among the others, and the two records that the dump cannot do without can be
read on every page. Every entry has its item in the JSON form and its line in the text, and those of
a failed record have the wording of its error.

Main statement: `Command.run_page_total`, on any files that make a space and for each of its pages,
with any printer that is faithful.
-/

namespace Tablespace

open Text (Painter)

/-! ## Opening the files -/

theorem Space.openFiles_eq_ok {contents : Contents} {files : List DataFile}
    (hfiles : ∀ file ∈ files, contents file.name = .ok file.bytes)
    (hextent : SpaceHeader.extent ≤ totalSize files) :
    openFiles contents (files.map (·.name)) = .ok { files, headerFits := hextent } := by
  refine bind_eq_ok_iff.2 ⟨files, ?_, ofFiles_eq_ok hextent⟩
  rw [mapM_eq_ok_iff, List.forall₂_map_left_iff, List.forall₂_same]
  intro file hmem
  rw [hfiles file hmem]

theorem openSpace_eq_ok {contents : Contents} {files : List DataFile}
    (hfiles : ∀ file ∈ files, contents file.name = .ok file.bytes)
    (hextent : SpaceHeader.extent ≤ totalSize files) :
    openSpace contents (files.map (·.name)) = .ok { files, headerFits := hextent } := by
  have hnonempty : files ≠ [] := by
    rintro rfl
    exact absurd hextent (by decide)
  rw [openSpace, if_neg (by simpa using hnonempty), Space.openFiles_eq_ok hfiles hextent]

/-! ## Members of JSON objects -/

/-- The member of an object with a name. -/
def Json.get? (name : String) : Json → Option Json
  | .obj members => members.lookup name
  | _ => none

theorem Json.lookup_member?_of_ne {α : Type} {f : α → Json} {name other : String}
    (h : other ≠ name) (value : Option α) : (member? name f value).lookup other = none := by
  cases value with
  | none => rfl
  | some a => rw [member?, List.lookup_cons, beq_false_of_ne h, List.lookup_nil]

theorem Json.lookup_member?_self {α : Type} (f : α → Json) (name : String) (value : Option α) :
    (member? name f value).lookup name = value.map f := by
  cases value with
  | none => rfl
  | some a => exact List.lookup_cons_self

/-! ## Entries -/

/-- The entries show all that the chain of a node comes to, in order: each record, as failed where
it cannot be read, and the error that breaks the chain off. -/
structure Node.ShownBy (node : Node) (entries : List RecordLine) : Prop where
  length : entries.length = node.cursor.items.length
  read : ∀ (i : Nat) record, node.cursor.items[i]? = some (.ok record) →
    entries[i]? = some
      (if record.isHeaderOnly then .headerOnly record.header else .decoded record)
  failed : ∀ (i : Nat) e,
    entries[i]? = some (.failed e) ↔ node.cursor.items[i]? = some (.error e)
  unreadable : ∀ (i : Nat) origin e,
    (node.walk node.stepLimit node.format.infimum).1[i]? = some origin →
    node.recordAt origin = .error e → entries[i]? = some (.failed e)
  broken : ∀ e, (node.walk node.stepLimit node.format.infimum).2 = some e →
    entries.getLast? = some (.failed e)

theorem RecordLine.ofItem_eq_failed_iff {item : Except Error Record} {e : Error} :
    ofItem item = failed e ↔ item = .error e := by
  cases item with
  | error cause => simp [ofItem]
  | ok record =>
    simp only [ofItem, reduceCtorEq, iff_false]
    split <;> exact RecordLine.noConfusion

/-- The item of JSON is that of the entry. A failed record has the wording of its error in a member
that no other has, and of the others it is told where they are. -/
def RecordLine.InJson (item : Json) : RecordLine → Prop
  | decoded record =>
    item.get? "offset" = some (.nat record.origin) ∧ item.get? "error" = none
  | headerOnly header =>
    (item.get? "header").bind (·.get? "offset") = some (.nat header.origin) ∧
      item.get? "error" = none
  | failed e => item.get? "error" = some (.str e.message)

/-- The line of text is that of the entry: a failed record has the wording of its error after a
question mark, and the others begin with their place. -/
def RecordLine.InText (styled : Bool) (line : String) : RecordLine → Prop
  | decoded record => (Text.alignRight 6 (toString record.origin)).toList <+: line.toList
  | headerOnly header => (Text.alignRight 6 (toString header.origin)).toList <+: line.toList
  | failed e => ∃ wording, line = "     ? " ++ wording ∧
      e.message.toList.Sublist wording.toList ∧ (styled = false → wording = e.message)

/-- Lists whose items are related in turn end with items that are. -/
theorem exists_getLast?_of_forall₂ {α β : Type} {R : α → β → Prop} {as : List α} {bs : List β}
    {a : α} (h : List.Forall₂ R as bs) (ha : as.getLast? = some a) :
    ∃ b, bs.getLast? = some b ∧ R a b := by
  induction h with
  | nil => cases ha
  | @cons first b as bs hfirst hrest ih =>
    cases hrest with
    | nil =>
      cases ha
      exact ⟨b, rfl, hfirst⟩
    | cons =>
      rw [List.getLast?_cons_cons] at ha ⊢
      exact ih ha

theorem RecordLine.inJson_toJson (entry : RecordLine) : entry.InJson entry.toJson := by
  cases entry with
  | decoded record =>
    have hchild := @Json.lookup_member?_of_ne _ Json.nat "child_page_number" "error" (by decide)
      record.child
    refine ⟨rfl, ?_⟩
    simp only [toJson, Record.toJson, Json.get?, List.lookup_append, hchild]
    cases (record.withRole .system).isEmpty <;> cases (record.withRole .row).isEmpty <;> rfl
  | headerOnly header => exact ⟨rfl, rfl⟩
  | failed e => rfl

theorem RecordLine.inText_text {printer : Printer} (h : printer.Faithful) (styled : Bool)
    (entry : RecordLine) : entry.InText styled (entry.text (printer.paint styled)) := by
  cases entry with
  | decoded record =>
    simp only [InText, text, columns, String.toList_append, List.append_assoc]
    exact List.prefix_append _ _
  | headerOnly header =>
    simp only [InText, text, columns, String.toList_append, List.append_assoc]
    exact List.prefix_append _ _
  | failed e =>
    refine ⟨printer.paint styled .red e.message, rfl, ?_, ?_⟩
    · cases styled with
      | true => exact h.styled .red e.message
      | false => rw [h.plain]
    · rintro rfl
      exact h.plain .red e.message

theorem NodeReport.shownBy_records (node : Node) : node.ShownBy (ofNode node).records := by
  have hitems : node.cursor.items =
      Cursor.ofWalk node (node.walk node.stepLimit node.format.infimum) :=
    Cursor.items_forward node node.format.infimum
  constructor
  case length => exact List.length_map _
  case read =>
    intro i record hi
    rw [ofNode, List.getElem?_map, hi]
    rfl
  case failed =>
    intro i e
    simp [ofNode, RecordLine.ofItem_eq_failed_iff]
  case unreadable =>
    intro i origin e hi hrecord
    obtain ⟨hlt, -⟩ := List.getElem?_eq_some_iff.1 hi
    rw [ofNode, List.getElem?_map, hitems, Cursor.ofWalk,
      List.getElem?_append_left (by rwa [List.length_map]), List.getElem?_map, hi]
    exact congrArg some (RecordLine.ofItem_eq_failed_iff.2 hrecord)
  case broken =>
    intro e he
    rw [ofNode, hitems, Cursor.ofWalk, he]
    simp [RecordLine.ofItem]

/-! ## The report on a node -/

namespace NodeReport

variable {node : Node} {report : NodeReport} {infimum supremum : RecordHeader}

/-- Both sentinels can be read on every page that reaches beyond the supremum. -/
theorem exists_sentinels (h : node.format.supremum < node.page.size) :
    ∃ infimum supremum, (ofNode node).sentinels = .ok (infimum, supremum) := by
  obtain ⟨hinfimum, hsupremum⟩ := Node.hasRoomAt_sentinels h
  obtain ⟨infimum, hreadInfimum, -⟩ := Node.exists_headerAt hinfimum
  obtain ⟨supremum, hreadSupremum, -⟩ := Node.exists_headerAt hsupremum
  refine ⟨infimum, supremum, ?_⟩
  rw [ofNode, Node.infimum, hreadInfimum, ok_bind, Node.supremum, hreadSupremum, ok_bind]
  rfl

theorem transcript_eq (h : report.sentinels = .ok (infimum, supremum)) (paint : Painter) :
    report.transcript paint = .ofLines (report.headerLines paint ++ report.segmentLines paint ++
      (sentinelLines paint infimum supremum ++ report.usageLines paint ++
        report.recordLines paint)) := by
  rw [transcript, h]
  exact Transcript.ofLines_append_ofLines _ _

theorem exists_toJson (h : report.sentinels = .ok (infimum, supremum)) :
    ∃ json, report.toJson = .ok json ∧
      json.get? "records" = some (.ofList RecordLine.toJson report.records) := by
  rw [toJson, h, ok_bind]
  refine ⟨_, rfl, ?_⟩
  have hleaf := @Json.lookup_member?_of_ne _ SegmentHeader.toJson "leaf_segment" "records"
    (by decide) report.leafSegment?
  have hinner := @Json.lookup_member?_of_ne _ SegmentHeader.toJson "internal_segment" "records"
    (by decide) report.innerSegment?
  simp [Json.get?, List.lookup_append, List.lookup_cons, hleaf, hinner]

end NodeReport

/-! ## The report on a page -/

namespace PageReport

variable {space : Space} {page : Page} {number : Nat} {report : PageReport}
  {inner : NodeReport}

/-- Errors of the data dictionary are none of the report: an index page without columns is reported
as well. -/
theorem exists_ofSpace (hpage : space.page number = .ok page) :
    ∃ report, ofSpace space number = .ok report ∧
      (page.kind ≠ .index → report.node = none) ∧
      (page.kind = .index → ∃ node, Node.ofPage page (layout? space page) = .ok node ∧
        report.node = some (.ofNode node)) := by
  rw [ofSpace, hpage, ok_bind]
  by_cases hkind : page.kind = .index
  · rw [ofPage, if_pos hkind, Node.ofPage_eq_ok _ hkind (Space.indexHeader_fits hpage)]
    exact ⟨_, rfl, fun hother => absurd hkind hother, fun _ => ⟨_, rfl, rfl⟩⟩
  · rw [ofPage, if_neg hkind]
    exact ⟨_, rfl, fun _ => rfl, fun hindex => absurd hindex hkind⟩

theorem error_transcript_of_none (h : report.node = none) (paint : Painter) (hex : Bool) :
    (report.transcript paint hex).error = none := by
  rw [transcript, h]
  rfl

/-- The lines about the node stand in one piece among those about the page. -/
theorem transcript_of_some {lines : List String} {paint : Painter} (h : report.node = some inner)
    (hinner : inner.transcript paint = .ofLines lines) (hex : Bool) :
    (report.transcript paint hex).error = none ∧
      lines <:+: (report.transcript paint hex).lines := by
  rw [transcript, h, Option.map_some, Option.getD_some, hinner, Transcript.ofLines_append_ofLines,
    Transcript.ofLines_append_ofLines]
  exact ⟨rfl, _, _, rfl⟩

theorem exists_toJson_of_none (h : report.node = none) : ∃ json, report.toJson = .ok json := by
  rw [toJson, h]
  exact ⟨_, rfl⟩

theorem exists_toJson_of_some {json : Json} (h : report.node = some inner)
    (hinner : inner.toJson = .ok json) :
    ∃ whole, report.toJson = .ok whole ∧ whole.get? "index" = some json := by
  have hmap : report.node.mapM NodeReport.toJson = .ok (some json) := by
    rw [h, Option.mapM_some, hinner]
    rfl
  rw [toJson, hmap, ok_bind]
  refine ⟨_, rfl, ?_⟩
  have hspace := @Json.lookup_member?_of_ne _ SpaceHeader.toJson "fsp_header" "index"
    (by decide) report.spaceHeader
  have hcatalog := @Json.lookup_member?_of_ne _ CatalogHeader.toJson "dictionary_header" "index"
    (by decide) report.catalogHeader
  simp [Json.get?, List.lookup_append, List.lookup_cons, hspace, hcatalog,
    Json.lookup_member?_self]

/-- The report on an index page can be written whole, with all its records. -/
theorem shows_records {node : Node} (h : report.node = some (.ofNode node))
    (hlong : node.format.supremum < node.page.size) :
    (∃ json, report.toJson = .ok json ∧ (json.get? "index").bind (·.get? "records") =
      some (.arr ((NodeReport.ofNode node).records.map RecordLine.toJson))) ∧
    ∀ paint hex, (report.transcript paint hex).error = none ∧
      "" :: paint .bold "=== Records" ::
          (NodeReport.ofNode node).records.map (·.text paint) <:+:
        (report.transcript paint hex).lines := by
  obtain ⟨infimum, supremum, hsentinels⟩ := NodeReport.exists_sentinels hlong
  constructor
  · obtain ⟨json, hjson, hrecords⟩ := NodeReport.exists_toJson hsentinels
    obtain ⟨whole, hwhole, hmember⟩ := exists_toJson_of_some h hjson
    refine ⟨whole, hwhole, ?_⟩
    rw [hmember]
    exact hrecords
  · intro paint hex
    obtain ⟨herror, hlines⟩ :=
      transcript_of_some h (NodeReport.transcript_eq hsentinels paint) hex
    refine ⟨herror, List.IsInfix.trans ?_ hlines⟩
    rw [← List.append_assoc]
    exact (List.suffix_append _ _).isInfix

end PageReport

namespace Command

/-! ## The dump -/

section Dump

variable {contents : Contents} {printer : Printer} {files : List DataFile} {names : List String}
  {number : Nat}

theorem run_page_text {space : Space} {report : PageReport}
    (hopen : openSpace contents names = .ok space)
    (hreport : PageReport.ofSpace space number = .ok report) (styled hex : Bool) :
    run contents styled (.page names number hex false) printer =
      report.transcript (printer.paint styled) hex := by
  simp only [run]
  rw [hopen, ok_bind, hreport]
  rfl

theorem run_page_json {space : Space} {report : PageReport} {json : Json} {text : String}
    (hopen : openSpace contents names = .ok space)
    (hreport : PageReport.ofSpace space number = .ok report) (hjson : report.toJson = .ok json)
    (htext : printer.json json = .ok text) (styled hex : Bool) :
    run contents styled (.page names number hex true) printer = .ofLines [text] := by
  simp only [run]
  rw [hopen, ok_bind, hreport, ok_bind, hjson]
  simp only [Transcript.ofJson, Transcript.about, htext, if_true]

/-- Every page of every space is dumped: whatever the bytes of the files are, a dump as text, with
hex or without, and a dump as JSON come without an error. Of an index page both show all that the
chain of its records comes to, in order: the JSON form has an item and the text below its heading a
line for each record and each error. -/
theorem run_page_total (hprinter : printer.Faithful)
    (hfiles : ∀ file ∈ files, contents file.name = .ok file.bytes)
    (hextent : 150 ≤ totalSize files) (hnumber : number < totalSize files / 16384) :
    ∃ space page, ∃ json : Json, ∃ text, openSpace contents (files.map (·.name)) = .ok space ∧
      space.page number = .ok page ∧ printer.json json = .ok text ∧
      (∀ styled hex,
        run contents styled (.page (files.map (·.name)) number hex true) printer =
          .ofLines [text]) ∧
      (∀ styled hex,
        (run contents styled (.page (files.map (·.name)) number hex false) printer).error =
          none) ∧
      (page.kind = .index → ∃ node entries items,
        Node.ofPage page (PageReport.layout? space page) = .ok node ∧ node.ShownBy entries ∧
        (json.get? "index").bind (·.get? "records") = some (.arr items) ∧
        List.Forall₂ (fun entry item => entry.InJson item) entries items ∧
        ∀ styled hex, ∃ lines,
          "" :: printer.paint styled .bold "=== Records" :: lines <:+:
            (run contents styled (.page (files.map (·.name)) number hex false) printer).lines ∧
          List.Forall₂ (fun entry line => entry.InText styled line) entries lines) := by
  let space : Space := { files, headerFits := hextent }
  have hopen : openSpace contents (files.map (·.name)) = .ok space :=
    openSpace_eq_ok hfiles hextent
  obtain ⟨page, hpage, -, -, hsize⟩ := @Space.page_eq_ok space number hnumber
  obtain ⟨report, hreport, hother, hindex⟩ := PageReport.exists_ofSpace hpage
  have hrun := @run_page_text contents printer _ _ _ _ hopen hreport
  by_cases hkind : page.kind = .index
  · obtain ⟨node, hnode, hinner⟩ := hindex hkind
    have hsupremum : node.format.supremum < node.page.size := by
      rw [(Node.page_of_ofPage hnode).1, hsize]
      exact Nat.lt_of_lt_of_le (by cases node.format <;> decide) space.le_pageSize
    obtain ⟨⟨json, hjson, hrecords⟩, hshows⟩ := PageReport.shows_records hinner hsupremum
    obtain ⟨text, htext⟩ := hprinter.json json
    refine ⟨space, page, json, text, hopen, hpage, htext,
      run_page_json hopen hreport hjson htext, ?_, fun _ => ?_⟩
    · intro styled hex
      rw [hrun]
      exact (hshows _ hex).1
    · refine ⟨node, _, _, hnode, NodeReport.shownBy_records node, hrecords, ?_, ?_⟩
      · rw [List.forall₂_map_right_iff, List.forall₂_same]
        exact fun entry _ => entry.inJson_toJson
      · intro styled hex
        rw [hrun]
        refine ⟨_, (hshows _ hex).2, ?_⟩
        rw [List.forall₂_map_right_iff, List.forall₂_same]
        exact fun entry _ => entry.inText_text hprinter styled
  · obtain ⟨json, hwhole⟩ := PageReport.exists_toJson_of_none (hother hkind)
    obtain ⟨text, htext⟩ := hprinter.json json
    refine ⟨space, page, json, text, hopen, hpage, htext,
      run_page_json hopen hreport hwhole htext, ?_, fun hindex => absurd hindex hkind⟩
    intro styled hex
    rw [hrun]
    exact PageReport.error_transcript_of_none (hother hkind) _ hex

end Dump

namespace Looping

/-- A page of an index on which the infimum and the record at 126 link to each other. -/
def image : ByteArray :=
  ⟨⟨List.replicate 24 0 ++ [69, 191] ++ List.replicate 16 0 ++ [128, 2] ++ List.replicate 53 0 ++
    [0, 27] ++ List.replicate 25 0 ++ [255, 229] ++ List.replicate 16258 0⟩⟩

def file : DataFile := ⟨"ibdata1", image⟩

def contents : Contents := fun _ => .ok image

theorem size_image : image.size = 16384 := by
  rw [← ByteArray.size_data, image, List.size_toArray]
  simp only [List.length_append, List.length_replicate, List.length_cons, List.length_nil]

/-- The fields that make it such a page. -/
theorem fields_image : fieldAt image 24 2 = 17855 ∧ fieldAt image 42 2 = 2 ^ 15 + 2 ∧
    fieldAt image 97 2 = 27 ∧ fieldAt image 124 2 = 2 ^ 16 - 27 := by
  simp only [fieldAt, slice_eq]
  decide +kernel

section Node

variable {node : Node}

theorem shape_node (hbytes : node.page.bytes = image) :
    node.format = .compact ∧ node.page.size = 16384 := by
  constructor
  · rw [Node.format, Node.header, hbytes, IndexHeader.format, IndexHeader.ofBytes,
      fields_image.2.1]
    rfl
  · rw [Page.size, hbytes, size_image]

theorem link_node (hbytes : node.page.bytes = image) :
    node.linkAt 99 = 126 ∧ node.linkAt 126 = 99 := by
  obtain ⟨-, -, hinfimum, hrecord⟩ := fields_image
  obtain ⟨hformat, -⟩ := shape_node hbytes
  constructor
  · rw [Node.linkAt, hbytes, hinfimum, hformat]
    rfl
  · rw [Node.linkAt, hbytes, hrecord, hformat]
    rfl

theorem successor_node (hbytes : node.page.bytes = image) {origin : Nat}
    (h : origin = 99 ∨ origin = 126) :
    ∃ next, node.successor origin = .ok (some next) ∧ (next = 99 ∨ next = 126) := by
  obtain ⟨hformat, hsize⟩ := shape_node hbytes
  obtain ⟨hinfimum, hrecord⟩ := link_node hbytes
  have hroom : node.HasRoomAt origin := by
    rw [Node.HasRoomAt, hformat, hsize]
    rcases h with rfl | rfl <;> decide
  have hlink : ¬ node.EndsAt origin := by
    unfold Node.EndsAt Node.HasRoomAt
    rw [hformat, hsize]
    rcases h with rfl | rfl
    · rw [hinfimum]
      decide
    · rw [hrecord]
      decide
  refine ⟨_, Node.successor_of_not_endsAt hroom hlink, ?_⟩
  rcases h with rfl | rfl
  · exact .inr hinfimum
  · exact .inl hrecord

/-- The walk from the infimum finds no end. -/
theorem walk_node (hbytes : node.page.bytes = image) :
    (node.walk node.stepLimit node.format.infimum).1.length = 3276 ∧
      ∃ last, (node.walk node.stepLimit node.format.infimum).2 = some (node.loopAt last) := by
  obtain ⟨hformat, hsize⟩ := shape_node hbytes
  have hstart : node.format.infimum = 99 := by
    rw [hformat]
    rfl
  have hlimit : node.stepLimit = 3276 := by
    rw [Node.stepLimit, hformat, hsize]
    rfl
  obtain ⟨hlength, hfault⟩ :=
    Node.walk_of_closed (fun _ => successor_node hbytes) node.stepLimit (.inl hstart)
  exact ⟨hlength.trans hlimit, hfault⟩

end Node

end Looping

/-- The dump of a page whose records are linked in a circle, in a space without a data dictionary,
shows as many records as the page has room for and then, as failed, the circle. -/
theorem run_page_total_looping :
    Printer.terminal.Faithful ∧
      (∀ file ∈ [Looping.file], Looping.contents file.name = .ok file.bytes) ∧
      150 ≤ totalSize [Looping.file] ∧ 0 < totalSize [Looping.file] / 16384 ∧
      ∃ last, ∃ json : Json, ∃ items item,
        (json.get? "index").bind (·.get? "records") = some (.arr items) ∧
        items.length = 3277 ∧ items.getLast? = some item ∧
        item.get? "error" = some (.str (Error.link 0 (.recordLoop last)).message) ∧
        (∀ styled hex, run Looping.contents styled (.page ["ibdata1"] 0 hex true) =
          .ofLines [json.pretty]) ∧
        ∀ hex, (run Looping.contents false (.page ["ibdata1"] 0 hex false)).error = none ∧
          ∃ lines, lines.length = 3277 ∧
            lines.getLast? = some ("     ? " ++ (Error.link 0 (.recordLoop last)).message) ∧
            "" :: "=== Records" :: lines <:+:
              (run Looping.contents false (.page ["ibdata1"] 0 hex false)).lines := by
  have htotal : totalSize [Looping.file] = 16384 := by
    rw [totalSize, List.map_singleton, List.sum_singleton]
    exact Looping.size_image
  have hfiles : ∀ file ∈ [Looping.file], Looping.contents file.name = .ok file.bytes := by
    rintro file hmem
    rw [List.mem_singleton.1 hmem]
    rfl
  have hextent : 150 ≤ totalSize [Looping.file] := by
    rw [htotal]
    decide
  have hnumber : 0 < totalSize [Looping.file] / 16384 := by
    rw [htotal]
    decide
  obtain ⟨space, page, json, text, hopen, hpage, hprinted, hjson, htext, hindex⟩ :=
    run_page_total Printer.terminal_faithful hfiles hextent hnumber
  obtain ⟨hplace, hbytes⟩ : page.number = 0 ∧ page.bytes = Looping.image := by
    rw [openSpace_eq_ok hfiles hextent, Except.ok.injEq] at hopen
    subst hopen
    have hsizes : ∀ file ∈ [Looping.file], file.bytes.size = 16384 :=
      List.forall_mem_singleton.2 Looping.size_image
    have hfits : PageHeader.size ≤ Looping.image.size := by
      rw [Looping.size_image]
      decide
    rw [@Space.page_of_file _ Looping.file 0 rfl hsizes hfits] at hpage
    cases hpage
    exact ⟨rfl, rfl⟩
  have hkind : page.kind = .index := by
    rw [Page.kind, Page.header, hbytes, PageHeader.ofBytes, Looping.fields_image.1]
    rfl
  obtain ⟨node, entries, items, hnode, hshown, hrecords, hitems, hlines⟩ := hindex hkind
  have hpageNode : node.page = page := (Node.page_of_ofPage hnode).1
  have hbytesNode : node.page.bytes = Looping.image := by rw [hpageNode, hbytes]
  obtain ⟨hlength, last, hfault⟩ := Looping.walk_node hbytesNode
  have hnumberNode : node.number = 0 := by rw [Node.number, hpageNode, hplace]
  have hcount : entries.length = 3277 := by
    rw [hshown.length, Node.cursor, Cursor.items_forward, Cursor.ofWalk, List.length_append,
      List.length_map, List.length_map, hlength, hfault]
    rfl
  have hfailed := hshown.broken _ hfault
  rw [Node.loopAt, hnumberNode] at hfailed
  obtain ⟨item, hitem, herror⟩ := exists_getLast?_of_forall₂ hitems hfailed
  refine ⟨Printer.terminal_faithful, hfiles, hextent, hnumber, last, json, items, item, hrecords,
    hitems.length_eq ▸ hcount, hitem, herror, ?_, ?_⟩
  · intro styled hex
    cases hprinted
    exact hjson styled hex
  · intro hex
    obtain ⟨lines, hplaced, hshows⟩ := hlines false hex
    obtain ⟨line, hline, wording, hwording, -, hplain⟩ := exists_getLast?_of_forall₂ hshows hfailed
    refine ⟨htext false hex, lines, hshows.length_eq ▸ hcount, ?_, hplaced⟩
    rw [hline, hwording, hplain rfl]

end Command

end Tablespace
