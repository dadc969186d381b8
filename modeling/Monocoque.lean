import Monocoque.PyStr
import Monocoque.PyDict
import Monocoque.PyFloat
import Monocoque.Criterion
import Monocoque.Summary
import Monocoque.SummaryOrder
import Monocoque.SummaryCompare
import Monocoque.SummaryDivide
import Monocoque.SummaryHighlights
import Monocoque.Aggregate
import Monocoque.BenchPubSub
import Monocoque.PubSubCapacity
import Monocoque.BenchReqRep
import Monocoque.ReqRepTrace
