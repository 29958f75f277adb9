import Bindery.Attribute.Scalar

/-!
# Styles

A style is one visual property of a node.  What a property looks like is for a renderer to say; here
a style is a kind with the fields that belong to it.

* `StyleKind`: the kinds, with the fields of each (`StyleKind.fields`).
* `Style`: a style; `Style.record` and `Style.ofRecord` take it apart into its fields and back.
* `Style.agree`: equality of styles, where numbers are compared as numbers.
-/

namespace Bindery

/-- The kinds of styles. -/
inductive StyleKind where
  | width
  | height
  | alignment
  | padding
  | fontFamily
  | fontSize
  | fontColor
  | imageScaling
  | imageCompression
  | lineColor
deriving DecidableEq, Repr

namespace StyleKind

/-- The type name of a kind. -/
def typeName : StyleKind → String
  | width => "Width"
  | height => "Height"
  | alignment => "Alignment"
  | padding => "Padding"
  | fontFamily => "FontFamily"
  | fontSize => "FontSize"
  | fontColor => "FontColor"
  | imageScaling => "ImageScaling"
  | imageCompression => "ImageCompression"
  | lineColor => "LineColor"

instance : Enumeration StyleKind where
  values := [width, height, alignment, padding, fontFamily, fontSize, fontColor, imageScaling,
    imageCompression, lineColor]
  name := typeName
  find_name value := by cases value <;> decide

end StyleKind

/-- A style: a kind with the values of its fields.  Lengths are in points, colours are written as
`#rrggbb`. -/
inductive Style where
  | width (value : Binary64)
  | height (value : Binary64)
  | alignment (horizontal : HorizontalAlign) (vertical : VerticalAlign)
  | padding (top right bottom left : Binary64)
  | fontFamily (value : String)
  | fontSize (value : Binary64)
  | fontColor (value : String)
  | imageScaling (value : Scaling)
  | imageCompression (value : Compression)
  | lineColor (value : String)
deriving DecidableEq

/-! ## Fields -/

/-- A field of a style.  A field with a default may be left out. -/
structure StyleField where
  name : String
  scalar : Scalar
  default : Option scalar.Value

/-- The values of the given fields. -/
@[reducible] def StyleRecord : List StyleField → Type
  | [] => Unit
  | field :: fields => field.scalar.Value × StyleRecord fields

/-- The fields of each kind of style, in the order in which they are written. -/
@[reducible] def StyleKind.fields : StyleKind → List StyleField
  | width => [⟨"value", .number, none⟩]
  | height => [⟨"value", .number, none⟩]
  | alignment => [⟨"horizontalalign", .horizontalAlign, some .left⟩,
      ⟨"verticalalign", .verticalAlign, some .top⟩]
  | padding => [⟨"top", .number, some (.zero false)⟩, ⟨"right", .number, some (.zero false)⟩,
      ⟨"bottom", .number, some (.zero false)⟩, ⟨"left", .number, some (.zero false)⟩]
  | fontFamily => [⟨"value", .text, none⟩]
  | fontSize => [⟨"value", .number, none⟩]
  | fontColor => [⟨"value", .text, none⟩]
  | imageScaling => [⟨"value", .scaling, none⟩]
  | imageCompression => [⟨"value", .compression, none⟩]
  | lineColor => [⟨"value", .text, none⟩]

namespace Style

/-- The kind of a style. -/
def kind : Style → StyleKind
  | width _ => .width
  | height _ => .height
  | alignment _ _ => .alignment
  | padding _ _ _ _ => .padding
  | fontFamily _ => .fontFamily
  | fontSize _ => .fontSize
  | fontColor _ => .fontColor
  | imageScaling _ => .imageScaling
  | imageCompression _ => .imageCompression
  | lineColor _ => .lineColor

/-- The values of the fields of a style. -/
def record : (style : Style) → StyleRecord style.kind.fields
  | width value => (value, ())
  | height value => (value, ())
  | alignment horizontal vertical => (horizontal, vertical, ())
  | padding top right bottom left => (top, right, bottom, left, ())
  | fontFamily value => (value, ())
  | fontSize value => (value, ())
  | fontColor value => (value, ())
  | imageScaling value => (value, ())
  | imageCompression value => (value, ())
  | lineColor value => (value, ())

/-- The style of a kind with these values of its fields. -/
def ofRecord : (kind : StyleKind) → StyleRecord kind.fields → Style
  | .width, (value, ()) => width value
  | .height, (value, ()) => height value
  | .alignment, (horizontal, vertical, ()) => alignment horizontal vertical
  | .padding, (top, right, bottom, left, ()) => padding top right bottom left
  | .fontFamily, (value, ()) => fontFamily value
  | .fontSize, (value, ()) => fontSize value
  | .fontColor, (value, ()) => fontColor value
  | .imageScaling, (value, ()) => imageScaling value
  | .imageCompression, (value, ()) => imageCompression value
  | .lineColor, (value, ()) => lineColor value

@[simp] theorem ofRecord_record (style : Style) : ofRecord style.kind style.record = style := by
  cases style <;> rfl

@[simp] theorem kind_ofRecord (kind : StyleKind) (record : StyleRecord kind.fields) :
    (ofRecord kind record).kind = kind := by
  cases kind <;> rfl

/-- Black, the colour of text and lines that have no other. -/
def black : String := "#000000"

/-- The style of a kind that nothing has been said about. -/
def initial : StyleKind → Style
  | .width => width (.zero false)
  | .height => height (.zero false)
  | .alignment => alignment .left .top
  | .padding => padding (.zero false) (.zero false) (.zero false) (.zero false)
  | .fontFamily => fontFamily ""
  | .fontSize => fontSize (.zero false)
  | .fontColor => fontColor black
  | .imageScaling => imageScaling .fitWidth
  | .imageCompression => imageCompression .best
  | .lineColor => lineColor black

@[simp] theorem kind_initial (kind : StyleKind) : (initial kind).kind = kind := by
  cases kind <;> rfl

/-- Equality of styles, numbers being compared as numbers. -/
def agree : Style → Style → Bool
  | width a, width b => a.numEq b
  | height a, height b => a.numEq b
  | alignment h v, alignment h' v' => h == h' && v == v'
  | padding t r b l, padding t' r' b' l' => t.numEq t' && r.numEq r' && b.numEq b' && l.numEq l'
  | fontFamily a, fontFamily b => a == b
  | fontSize a, fontSize b => a.numEq b
  | fontColor a, fontColor b => a == b
  | imageScaling a, imageScaling b => a == b
  | imageCompression a, imageCompression b => a == b
  | lineColor a, lineColor b => a == b
  | _, _ => false

@[simp] theorem agree_self (style : Style) : style.agree style = true := by
  cases style <;> simp [agree]

theorem kind_eq_of_agree {a b : Style} (h : a.agree b = true) : a.kind = b.kind := by
  cases a <;> cases b <;> simp_all [agree, kind]

end Style

end Bindery
