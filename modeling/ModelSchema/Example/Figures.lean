import ModelSchema.Class.Marker
import ModelSchema.Example.Shapes
import ModelSchema.Property

/-!
Small catalogs on which general statements can be instantiated.

In `figures` a polygon is a figure and a square is a polygon. A drawing refers to figures, to polygons and to
drawings, so that its schema has branches, definitions, and references to itself. In `links` there
is a model that is a leaf at the same time, and in `feeds` such a model has a field without a schema.
In `tags` a computed field is written under the key of the discriminator. In `events` a journal has
events, and a class of events are instants as well. In `cards` a card has an address that is a model
and a leaf. In `articles` several fields are written under one name, and others under the key of the
discriminator. In `stations` a stream has a field without a schema, and is reached as a broadcast.
In `library` a volume is a publication with a parameter that is bound to persons. In `courses` a term
is nothing, a number, a day, or a decimal number. In `memos` a memo has a remark, which can be anything.
The properties of a frame are such that each of width and height is written under the other's name.
In `panels` keywords are injected into a panel and its dial, among them definitions. In `gallery` the
closed list of an exhibit names the exhibit itself, and a bust, which is one by way of a sculpture.
The colours in `colours` are texts. In `parcels` a parcel gives a title to its sender. In `pages` a report
is a page in two ways: by way of the pages of numbers, and by way of the drafts of another module.
-/

namespace ModelSchema.Example

def figure : ClassRef := .declared 0
def polygon : ClassRef := .declared 1
def square : ClassRef := .declared 2
def drawing : ClassRef := .declared 3

/-- A model with nothing but fields. -/
def plainModel (name : String) (bases ancestors : List ClassRef) (fields : List Field) :
    ClassInfo :=
  { className := ⟨"figures", name, name⟩
    bases := bases
    ancestors := ancestors
    kind := .model ⟨fields.map (·.name), fields, [], .empty, none, [], [], false⟩ }

def figures : Catalog :=
  let model := ClassRef.basic .model
  let object := ClassRef.basic .object
  { table := { ClassTable.empty with
      classes := #[
        plainModel "Figure" [model] [figure, model, object] [],
        plainModel "Polygon" [figure] [polygon, figure, model, object]
          [plainField "width" (.basic .float)],
        plainModel "Square" [polygon] [square, polygon, figure, model, object]
          [plainField "width" (.basic .float)],
        plainModel "Drawing" [model] [drawing, model, object]
          [plainField "figures" (.array .list (.cls figure)),
            plainField "frame" (.cls polygon),
            plainField "next" (.optional (.cls drawing)),
            plainField "created" (.basic .instant)]] }
    markers := ⟨[drawing], [(figure, "kind")], [], [], []⟩ }

/-- A drawing with a square in it. -/
def sketch : Value :=
  .modelInstance drawing [
    ("figures", .list [.modelInstance square [("width", .int 1)] []]), ("frame", .null),
    ("next", .null), ("created", .null)] []

/-- What the drawing is written as. -/
def sketchPayload : Value :=
  .record [
    ("figures", .list [.record [("kind", .str "square"), ("width", .int 1)]]), ("frame", .null),
    ("next", .null), ("created", .null)]

def tile : Value := .modelInstance square [("width", .float .zero)] []

/-- A drawing of a square, with a square as its frame. -/
def picture : Value :=
  .modelInstance drawing [
    ("figures", .list [tile]), ("frame", tile), ("next", .null), ("created", .instant ⟨1, 2⟩)] []

def resource : ClassRef := .declared 0
def link : ClassRef := .declared 1
def deepLink : ClassRef := .declared 2

/-- A link is a resource, and an address as well. -/
def links : Catalog :=
  let model := ClassRef.basic .model
  let object := ClassRef.basic .object
  let url := ClassRef.basic .url
  { table := { ClassTable.empty with
      classes := #[
        plainModel "Resource" [model] [resource, model, object] [],
        plainModel "Link" [resource, url] [link, resource, model, url, object] [],
        plainModel "LinkBelow" [link] [deepLink, link, resource, model, url, object] []] }
    markers := ⟨[], [(resource, "kind")], [], [], []⟩ }

def tag : ClassRef := .declared 0

/-- The kind of a tag is its label as well. -/
def tags : Catalog :=
  let model := ClassRef.basic .model
  let object := ClassRef.basic .object
  let label : ComputedField :=
    { name := "label", returns := .basic .str, source := .constant (.str "other")
      aliasName := some "kind", hasOwnAlias := true, title := none, description := none
      extra := none }
  { table := { ClassTable.empty with
      classes := #[
        { plainModel "Tag" [model] [tag, model, object] [] with
          kind := .model ⟨[], [], [label], .empty, none, [], [], false⟩ }] }
    markers := ⟨[], [(tag, "kind")], [], [], []⟩ }

def event : ClassRef := .declared 0
def stamp : ClassRef := .declared 1
def journal : ClassRef := .declared 2

/-- A stamp is an event, and an instant as well. -/
def events : Catalog :=
  let model := ClassRef.basic .model
  let object := ClassRef.basic .object
  let instant := ClassRef.basic .instant
  { table := { ClassTable.empty with
      classes := #[
        plainModel "Event" [model] [event, model, object] [],
        plainModel "Stamp" [event, instant] [stamp, event, model, instant, object] [],
        plainModel "Journal" [model] [journal, model, object]
          [plainField "first" (.cls stamp), plainField "latest" (.cls event)]] }
    markers := ⟨[], [(event, "kind")], [], [], []⟩ }

def address : ClassRef := .declared 0
def card : ClassRef := .declared 1

/-- The home on a card is an address, which is a model. -/
def cards : Catalog :=
  let model := ClassRef.basic .model
  let object := ClassRef.basic .object
  let url := ClassRef.basic .url
  { table := { ClassTable.empty with
      classes := #[
        plainModel "Address" [model, url] [address, model, url, object] [],
        plainModel "Card" [model] [card, model, object] [plainField "home" (.cls address)]] }
    markers := ⟨[], [], [], [], []⟩ }

/-- A card with its home. -/
def filledCard : Value := .modelInstance card [("home", .modelInstance address [] [])] []

def article : ClassRef := .declared 0

/-- An article has a title and a heading under one name, a field and a computed field under the key
of its discriminator, and a draft that is not written. -/
def articles : Catalog :=
  let model := ClassRef.basic .model
  let object := ClassRef.basic .object
  let fields : List Field :=
    [plainField "kind" (.basic .str),
      { plainField "title" (.basic .str) with aliasName := some "name" },
      { plainField "heading" (.basic .str) with serializationAlias := some "name" },
      { plainField "draft" (.basic .str) with excluded := true },
      { plainField "body" (.basic .str) with default := some (.str "") }]
  let length : ComputedField :=
    { name := "length", returns := .basic .int, source := .constant (.int 0)
      aliasName := some "kind", hasOwnAlias := true, title := none, description := none
      extra := none }
  { table := { ClassTable.empty with
      classes := #[
        { plainModel "Article" [model] [article, model, object] [] with
          kind := .model ⟨fields.map (·.name), fields, [length], .empty, none, [], [], false⟩ }] }
    markers := ⟨[], [(article, "kind")], [], [], [(article, ["name"])]⟩ }

/-- The attributes of an article, but for its draft. -/
def articleAttributes : List (String × Value) :=
  [("kind", .str "news"), ("title", .str "Short"), ("heading", .str "Long"), ("body", .str "")]

def station : ClassRef := .declared 0
def broadcast : ClassRef := .declared 1
def stream : ClassRef := .declared 2
def program : ClassRef := .declared 3

/-- A program has broadcasts, some of which are streams that can only be gone through. -/
def stations : Catalog :=
  let model := ClassRef.basic .model
  let object := ClassRef.basic .object
  { table := { ClassTable.empty with
      classes := #[
        plainModel "Station" [model] [station, model, object]
          [plainField "frequency" (.basic .float)],
        plainModel "Broadcast" [model] [broadcast, model, object] [],
        plainModel "Stream" [broadcast] [stream, broadcast, model, object]
          [plainField "chunks" (.unsupported .iterator (.basic .str))],
        plainModel "Program" [model] [program, model, object]
          [plainField "parts" (.array .list (.cls broadcast))]] }
    markers := ⟨[], [(broadcast, "kind")], [], [], []⟩ }

def person : ClassRef := .declared 0
def novelist : ClassRef := .declared 1
def publication : ClassRef := .declared 2
def volume : ClassRef := .declared 3

/-- Volumes are publications, for some kind of person, but no field says so. -/
def library : Catalog :=
  let model := ClassRef.basic .model
  let object := ClassRef.basic .object
  { table := { ClassTable.empty with
      typeVariables := #[⟨"A", some (.cls person), []⟩]
      classes := #[
        plainModel "Person" [model] [person, model, object] [],
        plainModel "Novelist" [person] [novelist, person, model, object] [],
        plainModel "Publication" [model] [publication, model, object] [],
        { plainModel "Volume" [publication] [volume, publication, model, object] [] with
          kind := .model ⟨[], [], [], .empty, none, [], [0], true⟩ }] }
    markers := ⟨[], [(person, "kind"), (publication, "kind")], [], [], []⟩ }

def term : ClassRef := .declared 0
def course : ClassRef := .declared 1

def openTerm : EnumMember := ⟨"open", .null⟩
def firstTerm : EnumMember := ⟨"first", .int 1⟩
def springTerm : EnumMember := ⟨"spring", .date ⟨2024, 3, 1⟩⟩
def secondTerm : EnumMember := ⟨"second", .decimal (.finite false 2 0)⟩

/-- Courses are given in terms, which are an enumeration. -/
def courses : Catalog :=
  let model := ClassRef.basic .model
  let object := ClassRef.basic .object
  let enumeration := ClassRef.basic .enumeration
  let members := [openTerm, firstTerm, springTerm, secondTerm]
  { table := { ClassTable.empty with
      classes := #[
        { plainModel "Term" [enumeration] [term, enumeration, object] [] with
          kind := .enumeration ⟨.none, members, members.map fun m => (m.name, m)⟩ },
        plainModel "Course" [model] [course, model, object] [plainField "term" (.cls term)]] }
    markers := ⟨[], [], [], [], []⟩ }

def memo : ClassRef := .declared 0

/-- The remark on a memo can be anything, but there has to be one. -/
def memos : Catalog :=
  let model := ClassRef.basic .model
  let object := ClassRef.basic .object
  { table := { ClassTable.empty with
      classes := #[plainModel "Memo" [model] [memo, model, object] [plainField "remark" .any]] }
    markers := ⟨[], [], [], [], []⟩ }

def panel : ClassRef := .declared 0
def dial : ClassRef := .declared 1

/-- What is injected into the schema of a panel: a description, and definitions. -/
def panelEntries : List (Value × Value) :=
  [(.str "description", .str "Instruments in a row."),
    (.str "definitions", .record [("Unit", .record [("type", .str "string")])])]

/-- What is injected where a panel refers to its dial. -/
def fieldEntries : List (Value × Value) := [(.str "deprecated", .bool true)]

def dialEntries : List (Value × Value) := [(.str "minProperties", .int 1)]

/-- A panel has a dial. Something is injected into both classes, and into the field. -/
def panels : Catalog :=
  let model := ClassRef.basic .model
  let object := ClassRef.basic .object
  let given (entries : List (Value × Value)) (fields : List Field) : ClassKind :=
    .model ⟨fields.map (·.name), fields, [],
      { Config.empty with extra := some (some (.merge entries)) }, none, [], [], false⟩
  { table := { ClassTable.empty with
      classes := #[
        { plainModel "Panel" [model] [panel, model, object] [] with
          kind := given panelEntries
            [{ plainField "dial" (.cls dial) with extra := some (.merge fieldEntries) }] },
        { plainModel "Dial" [model] [dial, model, object] [] with
          kind := given dialEntries [plainField "reading" (.basic .float)] }] }
    markers := ⟨[], [], [], [], []⟩ }

def exhibit : ClassRef := .declared 0
def sculpture : ClassRef := .declared 1
def bust : ClassRef := .declared 2

/-- An exhibit is a thing or a head. -/
def gallery : Catalog :=
  let model := ClassRef.basic .model
  let object := ClassRef.basic .object
  { table := { ClassTable.empty with
      classes := #[
        plainModel "Exhibit" [model] [exhibit, model, object] [],
        plainModel "Sculpture" [exhibit] [sculpture, exhibit, model, object] [],
        plainModel "Bust" [sculpture] [bust, sculpture, exhibit, model, object] []] }
    markers := ⟨[], [(exhibit, "kind")], [],
      [(exhibit, [(exhibit, some "thing"), (bust, some "head")])], []⟩ }

def colour : ClassRef := .declared 0

def red : EnumMember := ⟨"red", .str "r"⟩

/-- Colours are an enumeration of texts. -/
def colours : Catalog :=
  let text := ClassRef.basic .str
  let enumeration := ClassRef.basic .enumeration
  let object := ClassRef.basic .object
  { table := { ClassTable.empty with
      classes := #[
        { plainModel "Colour" [text, enumeration] [colour, text, enumeration, object] [] with
          kind := .enumeration ⟨.str, [red], [(red.name, red)]⟩ }] }
    markers := ⟨[], [], [], [], []⟩ }

def sender : ClassRef := .declared 0
def parcel : ClassRef := .declared 1

/-- A parcel has a sender, whose title is given where the parcel refers to it. -/
def parcels : Catalog :=
  let model := ClassRef.basic .model
  let object := ClassRef.basic .object
  { table := { ClassTable.empty with
      classes := #[
        plainModel "Sender" [model] [sender, model, object] [plainField "name" (.basic .str)],
        plainModel "Parcel" [model] [parcel, model, object]
          [{ plainField "sender" (.cls sender) with title := some "Sent by" }]] }
    markers := ⟨[], [], [], [], []⟩ }

def page : ClassRef := .declared 0
def numberPage : ClassRef := .declared 1
def draft : ClassRef := .declared 2
def report : ClassRef := .declared 3

/-- A report is a page of numbers, which are a parametrised model, and a draft. -/
def pages : ClassTable :=
  let model := ClassRef.basic .model
  let object := ClassRef.basic .object
  { ClassTable.empty with
    typeVariables := #[⟨"T", none, []⟩]
    classes := #[
      { plainModel "Page" [model] [page, model, object] [] with
        kind := .model ⟨[], [], [], .empty, none, [], [0], true⟩ },
      { plainModel "Page[int]" [page] [numberPage, page, model, object] [] with
        kind := .model ⟨[], [], [], .empty, some page, [.basic .int], [], true⟩ },
      { plainModel "Draft" [page] [draft, page, model, object] [] with
        className := ⟨"drafts", "Draft", "Draft"⟩ },
      plainModel "Report" [numberPage, draft] [report, numberPage, draft, page, model, object] []] }

/-- A number that is written under a key. -/
def numberProperty (name key : String) : Property :=
  { name := name, publicName := key, annotation := .basic .int, required := true
    optional := false, explicitlyRequired := false, title := none, description := none
    extra := none, limits := [], readOnly := false }

def width : Property := numberProperty "width" "height"
def height : Property := numberProperty "height" "width"
def depth : Property := numberProperty "depth" "depth"

/-- The properties of a frame. Width and height have each other's name as their key. -/
def frameProperties : List Property := [width, height, depth]

end ModelSchema.Example
