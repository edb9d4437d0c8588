import ViewModifiers.Config.Configuration

/-!
# The packaged tables

The entries that hold unless a configuration document replaces them.
-/

namespace ViewModifiers.Config.Defaults

open Text

/-- Extensions of these protocols contribute modifiers. -/
def viewProtocols : List String :=
  ["View"]

/-- The qualifiers that are dropped from type spellings. -/
def modulePrefixes : List String :=
  ["Swift", "SwiftUI", "CoreFoundation", "CoreGraphics", "Foundation", "_Concurrency"]

/-- The modifiers whose form with a builder gives way to the one with a view reference. -/
def preferViewReference : List String :=
  ["toolbar"]

/-- The modifier types that the host writes by hand. -/
def extraModifierTypes : List String :=
  ["_FillModifier", "_RotationModifier", "_ScaleModifier<R>", "_StrokeModifier<R>",
    "_TransformModifier", "_IntersectionModifier", "_UnionModifier", "_SubtractingModifier",
    "_SymmetricDifferenceModifier", "_LineIntersectionModifier", "_LineSubtractionModifier",
    "_SearchScopesModifier<R>", "_SearchCompletionModifier<R>", "_OnSubmitModifier",
    "_MaskModifier<R>", "_MatchedGeometryEffectModifier<R>", "_Rotation3DEffectModifier<R>",
    "_PresentationDetentsModifier", "_FocusScopeModifier<R>", "_PrefersDefaultFocusModifier<R>"]

/-- The enumerated types for which parsers are made. -/
def requiredTypes : List String :=
  ["BlendMode", "Visibility", "ControlSize", "SubmitLabel", "VerticalAlignment",
    "ScrollIndicatorVisibility", "KeyboardShortcut", "ToolbarRole", "EventModifiers",
    "KeyPress.Phases", "RedactionReasons", "DialogSeverity", "HorizontalEdge",
    "ToolbarDefaultItemKind", "ContainerBackgroundPlacement", "ColorRenderingMode",
    "DigitalCrownRotationalSensitivity", "HorizontalAlignment", "ScrollBounceBehavior",
    "Prominence", "SpringLoadingBehavior", "PresentationAdaptation", "ButtonRepeatBehavior",
    "PresentationContentInteraction", "GestureMask", "BadgeProminence",
    "AccessibilityLabeledPairRole", "FocusInteractions", "MenuOrder",
    "DefaultFocusEvaluationPriority", "ContentMarginPlacement", "VerticalEdge", "HoverEffect",
    "ContentShapeKinds", "AlternatingRowBackgroundBehavior", "SubmitTriggers", "SafeAreaRegions",
    "ScenePadding", "ColorScheme", "MatchedGeometryProperties", "AccessibilityChildBehavior",
    "Image.DynamicRange", "ScrollDismissesKeyboardMode", "ToolbarTitleDisplayMode",
    "FileDialogBrowserOptions", "Axis", "SearchScopeActivation", "SearchSuggestionsPlacement",
    "RoundedCornerStyle"]

/-- The modifiers that apply to text alone. -/
def textModifiers : List String :=
  ["font", "fontWeight", "fontDesign", "fontWidth", "foregroundStyle", "bold", "italic",
    "strikethrough", "underline", "monospaced", "monospacedDigit", "kerning", "tracking",
    "baselineOffset", "textScale"]

/-- The modifiers that apply to images alone. -/
def imageModifiers : List String :=
  ["resizable", "renderingMode"]

/-- The modifiers that are never made. -/
def denylist : List String :=
  ["environment", "environmentObject", "transformEnvironment", "preference",
    "onPreferenceChange", "transformPreference", "anchorPreference", "transformAnchorPreference",
    "onChange", "onReceive", "alignmentGuide", "layoutValue", "focusedObject",
    "focusedSceneObject", "focusedSceneValue", "focusedValue", "navigationDocument",
    "previewContext", "previewDevice", "previewInterfaceOrientation", "previewLayout",
    "onCommand", "tag", "id", "task", "fileDialogURLEnabled", "searchScopes", "searchCompletion",
    "onSubmit", "mask", "matchedGeometryEffect", "rotation3DEffect", "presentationDetents",
    "focusScope", "prefersDefaultFocus", "font", "fontWeight", "fontDesign", "fontWidth",
    "foregroundStyle", "bold", "italic", "strikethrough", "underline", "monospaced",
    "monospacedDigit", "kerning", "tracking", "baselineOffset", "textScale", "accessibilityRotor",
    "accessibilityChartDescriptor", "accessibilityFocused", "accessibilityQuickAction",
    "copyable", "cuttable", "defaultFocus", "digitalCrownRotation", "exportableToServices",
    "exportsItemProviders", "fileExporter", "fileImporter", "fileMover", "focused",
    "importableFromServices", "importsItemProviders", "itemProvider", "onContinuousHover",
    "onContinueUserActivity", "onCopyCommand", "onDrag", "onDrop", "onOpenURL", "onPasteCommand",
    "pageCommand", "pasteDestination", "sensoryFeedback", "transaction", "userActivity",
    "allowedDynamicRange", "alternatingRowBackgrounds", "badgeProminence", "buttonRepeatBehavior",
    "colorEffect", "containerBackground", "contentMargins", "dialogSeverity", "distortionEffect",
    "fileDialogBrowserOptions", "layerEffect", "layoutDirectionBehavior",
    "menuActionDismissBehavior", "ornament", "paletteSelectionEffect", "springLoadingBehavior",
    "touchBar", "touchBarItemPresence", "typesettingLanguage", "fileDialogMessage",
    "typeSelectEquivalent", "fileExporterFilenameLabel", "dialogIcon",
    "fileDialogDefaultDirectory", "onCutCommand", "accessibilityElementModifier",
    "safeAreaPadding", "tableColumnHeaders", "defaultHoverEffect", "defaultAppStorage",
    "accessibilityRotorEntry", "accessibilityLinkedGroup", "handlesExternalEvents",
    "accessibilityLabeledPair", "fileDialogConfirmationLabel", "accessibilityElement",
    "presentedWindowStyle", "presentedWindowToolbarStyle"]

/-- A labelled parameter of a hand-written modifier. -/
def labelled (label type : String) : SchemaParameter := ⟨.text label, .text type, none⟩

/-- A parameter of a hand-written modifier with an inner name. -/
def named (label name type : String) : SchemaParameter :=
  ⟨.text label, .text type, some (.text name)⟩

/-- The signatures of the hand-written modifiers. -/
def extraSchemas : NameTable (List (List SchemaParameter)) :=
   [("resizable",
      [[labelled "capInsets" "EdgeInsets",
        labelled "resizingMode" "SwiftUI.Image.ResizingMode"]]),
    ("renderingMode",
      [[named "_" "renderingMode" "SwiftUI.Image.TemplateRenderingMode?"]]),
    ("fill",
      [[named "_" "content" "AnyShapeStyle",
        labelled "style" "FillStyle"]]),
    ("rotation",
      [[named "_" "angle" "Angle",
        labelled "anchor" "UnitPoint"]]),
    ("scale",
      [[labelled "x" "AttributeReference<CGFloat>",
        labelled "y" "AttributeReference<CGFloat>",
        labelled "anchor" "UnitPoint"],
       [named "_" "Scale" "CGFloat",
        labelled "anchor" "UnitPoint"]]),
    ("stroke",
      [[named "_" "content" "AttributeReference<CGFloat>",
        labelled "style" "StrokeStyle",
        labelled "antialiased" "AttributeReference<Bool>"],
       [named "_" "content" "AttributeReference<CGFloat>",
        labelled "lineWidth" "AttributeReference<CGFloat>",
        labelled "antialiased" "AttributeReference<Bool>"]]),
    ("transform",
      [[named "_" "transform" "CGAffineTransform"]]),
    ("intersection",
      [[named "_" "other" "AnyShape",
        labelled "eoFill" "Bool"]]),
    ("union",
      [[named "_" "other" "AnyShape",
        labelled "eoFill" "Bool"]]),
    ("subtracting",
      [[named "_" "other" "AnyShape",
        labelled "eoFill" "Bool"]]),
    ("symmetricDifference",
      [[named "_" "other" "AnyShape",
        labelled "eoFill" "Bool"]]),
    ("lineIntersection",
      [[named "_" "other" "AnyShape",
        labelled "eoFill" "Bool"]]),
    ("lineSubtraction",
      [[named "_" "other" "AnyShape",
        labelled "eoFill" "Bool"]]),
    ("searchScopes",
      [[named "_" "scope" "ChangeTracked<String>",
        labelled "activation" "SearchScopeActivation",
        labelled "scopes" "ViewReference"],
       [named "_" "scope" "ChangeTracked<String>",
        labelled "scopes" "ViewReference"]]),
    ("searchCompletion",
      [[named "_" "token" "AtomString"],
       [named "_" "completion" "AttributeReference<String>"]]),
    ("onSubmit",
      [[named "of" "triggers" "SubmitTriggers",
        labelled "action" "Event"]]),
    ("mask",
      [[labelled "alignment" "Alignment",
        labelled "mask" "ViewReference"]]),
    ("matchedGeometryEffect",
      [[labelled "id" "AttributeReference<String>",
        named "in" "namespace" "AttributeReference<String>",
        labelled "properties" "MatchedGeometryProperties",
        labelled "anchor" "UnitPoint",
        labelled "isSource" "AttributeReference<Bool>"]]),
    ("rotation3DEffect",
      [[named "_" "angle" "Angle",
        labelled "axis" "_3DAxis",
        labelled "anchor" "UnitPoint",
        labelled "anchorZ" "AttributeReference<CGFloat>",
        labelled "perspective" "AttributeReference<CGFloat>"]]),
    ("presentationDetents",
      [[named "_" "detents" "Set<PresentationDetent>"]]),
    ("focusScope",
      [[named "_" "namespace" "AttributeReference<String>"]]),
    ("prefersDefaultFocus",
      [[named "_" "prefersDefaultFocus" "AttributeReference<Bool>",
        named "in" "namespace" "AttributeReference<String>"]])]

end ViewModifiers.Config.Defaults

namespace ViewModifiers.Config

/-- The packaged configuration. -/
def Configuration.packaged : Configuration where
  chunkSize := .count defaultChunkSize
  viewProtocols := Defaults.viewProtocols
  modulePrefixes := Defaults.modulePrefixes
  preferViewReference := Defaults.preferViewReference
  extraModifierTypes := Defaults.extraModifierTypes
  requiredTypes := Defaults.requiredTypes
  textModifiers := Defaults.textModifiers
  imageModifiers := Defaults.imageModifiers
  denylist := .ofList Defaults.denylist
  extraSchemas := Defaults.extraSchemas

end ViewModifiers.Config
