import SafeMarkup.Config.Unchecked
import SafeMarkup.Main
import SafeMarkup.Markup
import SafeMarkup.Proofs.Step
import SafeMarkup.Proofs.Fragments
import SafeMarkup.Proofs.CommentText
import SafeMarkup.Proofs.Pieces
import SafeMarkup.Proofs.CommentSite
import SafeMarkup.Proofs.AttributeSite
import SafeMarkup.Proofs.Escape
import SafeMarkup.Proofs.Transparency
import SafeMarkup.Proofs.Reachable
import SafeMarkup.Proofs.TagText
import SafeMarkup.Proofs.TagRun
import SafeMarkup.Proofs.AttributeReading
import SafeMarkup.Proofs.AttributeTable
import SafeMarkup.Proofs.StartTag
import SafeMarkup.Proofs.AttributeList
import SafeMarkup.Proofs.FrontEnds
import SafeMarkup.Proofs.FreeText
import SafeMarkup.Proofs.Nesting
import SafeMarkup.Proofs.CommentBorder
import SafeMarkup.Proofs.CommentEnd
import SafeMarkup.Proofs.GeneratedComment
import SafeMarkup.Proofs.AttributeOrder
import SafeMarkup.Proofs.Attempts
import SafeMarkup.Proofs.LastValue
import SafeMarkup.Proofs.ValueExtent
import SafeMarkup.Proofs.AttributeForms
import SafeMarkup.Proofs.RenderCommand
import SafeMarkup.Proofs.TagName
import SafeMarkup.Proofs.EscapedText
import SafeMarkup.Proofs.NearestTable
import SafeMarkup.Proofs.KeptNames
import SafeMarkup.Proofs.Progress
import SafeMarkup.Proofs.ByteText
import SafeMarkup.Proofs.JsonText
import SafeMarkup.Proofs.Persistence
import SafeMarkup.Proofs.MalformedFiles
import SafeMarkup.Proofs.BuiltConfig
