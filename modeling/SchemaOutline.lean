import SchemaOutline.Main
import SchemaOutline.Proofs.Json.Reading
import SchemaOutline.Proofs.Json.Limits
import SchemaOutline.Proofs.Text.Utf8
import SchemaOutline.Proofs.Outline.Children
import SchemaOutline.Proofs.Outline.Counting
import SchemaOutline.Proofs.Outline.Folded
import SchemaOutline.Proofs.Outline.FoldedProperties
import SchemaOutline.Proofs.Outline.Preorder
import SchemaOutline.Proofs.Outline.Preview
import SchemaOutline.Proofs.Outline.Reference
import SchemaOutline.Proofs.Session.Agreement
import SchemaOutline.Proofs.Session.Budget
import SchemaOutline.Proofs.Session.Standing
import SchemaOutline.Proofs.Session.Waiting
import SchemaOutline.Proofs.Fragment.Refolding
import SchemaOutline.Proofs.Fragment.Residue
import SchemaOutline.Proofs.Fragment.Associating
import SchemaOutline.Proofs.Fragment.Nesting
import SchemaOutline.Proofs.Session.Refusal
import SchemaOutline.Proofs.Fragment.Joining
import SchemaOutline.Proofs.Outline.InPlace
import SchemaOutline.Proofs.Outline.Pruned
import SchemaOutline.Proofs.Session.Verdict
import SchemaOutline.Proofs.Outline.BranchTypes
import SchemaOutline.Proofs.Outline.Pointer
import SchemaOutline.Proofs.Outline.Interrupted
import SchemaOutline.Proofs.Outline.Appending
import SchemaOutline.Proofs.Fragment.Respelling
import SchemaOutline.Proofs.Outline.Respelling
import SchemaOutline.Proofs.Outline.RespeltGrowth
import SchemaOutline.Proofs.Document.Loading
import SchemaOutline.Proofs.Outline.Labelled
import SchemaOutline.Proofs.Outline.Fitness
import SchemaOutline.Proofs.Outline.RearrangedGrowth
