/-!
# Date formats

The named date formats of the search engine. Apart from the epoch formats, which are numbers, and
from the two that name no format of their own, each stands for one pattern.
-/

namespace ObjectDocument

inductive DateFormat where
  | none
  | custom
  | basicDate
  | basicDateTime
  | basicDateTimeNoMillis
  | basicTime
  | basicTimeNoMillis
  | basicTTime
  | basicTTimeNoMillis
  | date
  | dateHour
  | dateHourMinute
  | dateHourMinuteSecond
  | dateHourMinuteSecondMillis
  | dateOptionalTime
  | dateTime
  | dateTimeNoMillis
  | epochMillis
  | epochSecond
  | hour
  | hourMinute
  | hourMinuteSecond
  | hourMinuteSecondMillis
  | time
  | timeNoMillis
  | year
  | yearMonth
  | yearMonthDay
deriving DecidableEq, Repr

namespace DateFormat

def all : List DateFormat :=
  [.none, .custom, .basicDate, .basicDateTime, .basicDateTimeNoMillis, .basicTime,
    .basicTimeNoMillis, .basicTTime, .basicTTimeNoMillis, .date, .dateHour, .dateHourMinute,
    .dateHourMinuteSecond, .dateHourMinuteSecondMillis, .dateOptionalTime, .dateTime,
    .dateTimeNoMillis, .epochMillis, .epochSecond, .hour, .hourMinute, .hourMinuteSecond,
    .hourMinuteSecondMillis, .time, .timeNoMillis, .year, .yearMonth, .yearMonthDay]

def key : DateFormat → String
  | none => "none"
  | custom => "custom"
  | basicDate => "basic_date"
  | basicDateTime => "basic_date_time"
  | basicDateTimeNoMillis => "basic_date_time_no_millis"
  | basicTime => "basic_time"
  | basicTimeNoMillis => "basic_time_no_millis"
  | basicTTime => "basic_t_time"
  | basicTTimeNoMillis => "basic_t_time_no_millis"
  | date => "date"
  | dateHour => "date_hour"
  | dateHourMinute => "date_hour_minute"
  | dateHourMinuteSecond => "date_hour_minute_second"
  | dateHourMinuteSecondMillis => "date_hour_minute_second_millis"
  | dateOptionalTime => "date_optional_time"
  | dateTime => "date_time"
  | dateTimeNoMillis => "date_time_no_millis"
  | epochMillis => "epoch_millis"
  | epochSecond => "epoch_second"
  | hour => "hour"
  | hourMinute => "hour_minute"
  | hourMinuteSecond => "hour_minute_second"
  | hourMinuteSecondMillis => "hour_minute_second_millis"
  | time => "time"
  | timeNoMillis => "time_no_millis"
  | year => "year"
  | yearMonth => "year_month"
  | yearMonthDay => "year_month_day"

def ofKey? (key : String) : Option DateFormat :=
  all.find? fun f => f.key = key

/-- The name of a format in mappings; the absence of a format has none. -/
def name : DateFormat → String
  | none => ""
  | f => f.key

def pattern? : DateFormat → Option String
  | none | custom | epochMillis | epochSecond => Option.none
  | basicDate => some "uuuuMMdd"
  | basicDateTime => some "uuuuMMdd'T'HHmmss.SSSXXX"
  | basicDateTimeNoMillis => some "uuuuMMdd'T'HHmmssXXX"
  | basicTime => some "HHmmss.SSSXXX"
  | basicTimeNoMillis => some "HHmmssXXX"
  | basicTTime => some "'T'HHmmss.SSSXXX"
  | basicTTimeNoMillis => some "'T'HHmmssXXX"
  | date | yearMonthDay => some "uuuu-MM-dd"
  | dateHour => some "uuuu-MM-dd'T'HH"
  | dateHourMinute => some "uuuu-MM-dd'T'HH:mm"
  | dateHourMinuteSecond => some "uuuu-MM-dd'T'HH:mm:ss"
  | dateHourMinuteSecondMillis => some "uuuu-MM-dd'T'HH:mm:ss.SSS"
  | dateOptionalTime | dateTime => some "uuuu-MM-dd'T'HH:mm:ss.SSSXXX"
  | dateTimeNoMillis => some "uuuu-MM-dd'T'HH:mm:ssXXX"
  | hour => some "HH"
  | hourMinute => some "HH:mm"
  | hourMinuteSecond => some "HH:mm:ss"
  | hourMinuteSecondMillis => some "HH:mm:ss.SSS"
  | time => some "HH:mm:ss.SSSXXX"
  | timeNoMillis => some "HH:mm:ssXXX"
  | year => some "uuuu"
  | yearMonth => some "uuuu-MM"

/-- Whether the format has no name in mappings: the absence of a format, and a format that is given
by patterns of its own. -/
def isUnnamed : DateFormat → Bool
  | none | custom => true
  | _ => false

end DateFormat

end ObjectDocument
