import QueryFoundry.Text.Octets

/-!
# Headers of algorithms

The headers of C++ that declare algorithms on sequences.
-/

namespace QueryFoundry.Native.Headers

open Text (Octets)

/-- Searching, sorting and changing sequences. -/
def algorithms : Octets := "
 #include <__algorithms>
 #include <initializer_list>
 namespace std <%
 struct __less <% template <class T, class U> bool operator()(const T &a, const U &b) const <%
   return a < b; %> %>;
 template <class T> T min(initializer_list<T> list) <%
   const T *best = list.begin();
   for (const T *i = list.begin(); i != list.end(); ++i) if (*i < *best) best = i;
   return *best; %>
 template <class T> T max(initializer_list<T> list) <%
   const T *best = list.begin();
   for (const T *i = list.begin(); i != list.end(); ++i) if (*best < *i) best = i;
   return *best; %>
 template <class T> pair<const T &, const T &> minmax(const T &a, const T &b) <%
   return b < a ? pair<const T &, const T &>(b, a) : pair<const T &, const T &>(a, b); %>
 template <class T, class L> const T &clamp(const T &v, const T &low, const T &high, L less) <%
   return less(v, low) ? low : less(high, v) ? high : v; %>
 template <class T> const T &clamp(const T &v, const T &low, const T &high) <%
   return v < low ? low : high < v ? high : v; %>
 template <class I, class F> F for_each(I first, I last, F f) <%
   for (; first != last; ++first) f(*first);
   return f; %>
 template <class I, class N, class F> I for_each_n(I first, N n, F f) <%
   for (; n > 0; --n, ++first) f(*first);
   return first; %>
 template <class I, class T> I find(I first, I last, const T &value) <%
   for (; first != last; ++first) if (*first == value) break;
   return first; %>
 template <class I, class P> I find_if(I first, I last, P test) <%
   for (; first != last; ++first) if (test(*first)) break;
   return first; %>
 template <class I, class P> I find_if_not(I first, I last, P test) <%
   for (; first != last; ++first) if (!test(*first)) break;
   return first; %>
 template <class I, class P> bool all_of(I first, I last, P test) <%
   for (; first != last; ++first) if (!test(*first)) return false;
   return true; %>
 template <class I, class P> bool any_of(I first, I last, P test) <%
   for (; first != last; ++first) if (test(*first)) return true;
   return false; %>
 template <class I, class P> bool none_of(I first, I last, P test) <%
   return !std::any_of(first, last, test); %>
 template <class I, class T>
 typename iterator_traits<I>::difference_type count(I first, I last, const T &value) <%
   typename iterator_traits<I>::difference_type n = 0;
   for (; first != last; ++first) if (*first == value) ++n;
   return n; %>
 template <class I, class P>
 typename iterator_traits<I>::difference_type count_if(I first, I last, P test) <%
   typename iterator_traits<I>::difference_type n = 0;
   for (; first != last; ++first) if (test(*first)) ++n;
   return n; %>
 template <class I, class J> pair<I, J> mismatch(I first, I last, J other) <%
   while (first != last && *first == *other) <% ++first; ++other; %>
   return pair<I, J>(first, other); %>
 template <class I, class J, class = typename enable_if<__is_iterator<J>::value>::type>
 bool equal(I first, I last, J other, J end) <%
   for (; first != last && other != end; ++first, ++other) if (!(*first == *other)) return false;
   return first == last && other == end; %>
 template <class I> I adjacent_find(I first, I last) <%
   if (first == last) return last;
   for (I next = first; ++next != last; first = next) if (*first == *next) return first;
   return last; %>
 template <class I, class P> I adjacent_find(I first, I last, P same) <%
   if (first == last) return last;
   for (I next = first; ++next != last; first = next) if (same(*first, *next)) return first;
   return last; %>
 template <class I, class J, class P> I search(I first, I last, J part, J end, P same) <%
   for (;; ++first) <%
     I i = first;
     for (J j = part;; ++i, ++j) <%
       if (j == end) return first;
       if (i == last) return last;
       if (!same(*i, *j)) break; %> %> %>
 struct __equal <% template <class T, class U> bool operator()(const T &a, const U &b) const <%
   return a == b; %> %>;
 template <class I, class J> I search(I first, I last, J part, J end) <%
   return std::search(first, last, part, end, __equal()); %>
 template <class I, class J> I find_end(I first, I last, J part, J end) <%
   I found = last;
   for (I i = first; (i = std::search(i, last, part, end)) != last; ++i) found = i;
   return found; %>
 template <class I, class J> I find_first_of(I first, I last, J other, J end) <%
   for (; first != last; ++first)
     for (J j = other; j != end; ++j) if (*first == *j) return first;
   return last; %>
 template <class I, class J, class P> J copy_if(I first, I last, J target, P test) <%
   for (; first != last; ++first) if (test(*first)) <% *target = *first; ++target; %>
   return target; %>
 template <class I, class N, class J> J copy_n(I first, N n, J target) <%
   for (; n > 0; --n, ++first, ++target) *target = *first;
   return target; %>
 template <class I, class J, class F> J transform(I first, I last, J target, F f) <%
   for (; first != last; ++first, ++target) *target = f(*first);
   return target; %>
 template <class I, class K, class J, class F>
 J transform(I first, I last, K other, J target, F f) <%
   for (; first != last; ++first, ++other, ++target) *target = f(*first, *other);
   return target; %>
 template <class I, class F> void generate(I first, I last, F f) <%
   for (; first != last; ++first) *first = f(); %>
 template <class I, class N, class F> I generate_n(I first, N n, F f) <%
   for (; n > 0; --n, ++first) *first = f();
   return first; %>
 template <class I, class T> void replace(I first, I last, const T &old, const T &value) <%
   for (; first != last; ++first) if (*first == old) *first = value; %>
 template <class I, class P, class T> void replace_if(I first, I last, P test, const T &value) <%
   for (; first != last; ++first) if (test(*first)) *first = value; %>
 template <class I, class T> I remove(I first, I last, const T &value) <%
   first = std::find(first, last, value);
   if (first == last) return first;
   I target = first;
   for (++first; first != last; ++first)
     if (!(*first == value)) <% *target = std::move(*first); ++target; %>
   return target; %>
 template <class I, class P> I remove_if(I first, I last, P test) <%
   first = std::find_if(first, last, test);
   if (first == last) return first;
   I target = first;
   for (++first; first != last; ++first)
     if (!test(*first)) <% *target = std::move(*first); ++target; %>
   return target; %>
 template <class I, class J, class P> J remove_copy_if(I first, I last, J target, P test) <%
   for (; first != last; ++first) if (!test(*first)) <% *target = *first; ++target; %>
   return target; %>
 template <class I, class P> I unique(I first, I last, P same) <%
   first = std::adjacent_find(first, last, same);
   if (first == last) return last;
   I target = first; ++first;
   while (++first != last) if (!same(*target, *first)) *++target = std::move(*first);
   return ++target; %>
 template <class I> I unique(I first, I last) <% return std::unique(first, last, __equal()); %>
 template <class I, class J> J unique_copy(I first, I last, J target) <%
   if (first == last) return target;
   I kept = first; *target = *kept;
   while (++first != last) if (!(*kept == *first)) <% kept = first; *++target = *kept; %>
   return ++target; %>
 template <class I> void reverse(I first, I last) <%
   while (first != last && first != --last) <% std::iter_swap(first, last); ++first; %> %>
 template <class I, class J> J reverse_copy(I first, I last, J target) <%
   while (first != last) <% --last; *target = *last; ++target; %>
   return target; %>
 template <class I> I rotate(I first, I middle, I last) <%
   if (first == middle) return last;
   if (middle == last) return first;
   I next = middle, result = first; bool isSet = false;
   while (true) <%
     std::iter_swap(first, next); ++first; ++next;
     if (next == last) <%
       if (!isSet) <% result = first; isSet = true; %>
       if (first == middle) return result;
       next = middle;
     %> else if (first == middle) middle = next; %> %>
 template <class I, class P> I partition(I first, I last, P test) <%
   while (true) <%
     while (true) <% if (first == last) return first; if (!test(*first)) break; ++first; %>
     do <% --last; if (first == last) return first; %> while (!test(*last));
     std::iter_swap(first, last); ++first; %> %>
 template <class I, class P> I stable_partition(I first, I last, P test) <%
   ptrdiff_t n = std::distance(first, last);
   if (n == 0) return first;
   if (n == 1) return test(*first) ? last : first;
   I middle = std::next(first, n / 2);
   I left = std::stable_partition(first, middle, test);
   I right = std::stable_partition(middle, last, test);
   return std::rotate(left, middle, right); %>
 template <class I, class P> bool is_partitioned(I first, I last, P test) <%
   first = std::find_if_not(first, last, test);
   return std::find_if(first, last, test) == last; %>
 template <class I, class L> I is_sorted_until(I first, I last, L less) <%
   if (first == last) return last;
   for (I next = first; ++next != last; first = next) if (less(*next, *first)) return next;
   return last; %>
 template <class I, class L> bool is_sorted(I first, I last, L less) <%
   return std::is_sorted_until(first, last, less) == last; %>
 template <class I> bool is_sorted(I first, I last) <%
   return std::is_sorted(first, last, __less()); %>
 template <class I, class L> void __push_heap(I first, ptrdiff_t hole, ptrdiff_t top,
     typename iterator_traits<I>::value_type value, L &less) <%
   ptrdiff_t parent = (hole - 1) / 2;
   while (hole > top && less(*(first + parent), value)) <%
     *(first + hole) = std::move(*(first + parent)); hole = parent; parent = (hole - 1) / 2; %>
   *(first + hole) = std::move(value); %>
 template <class I, class L> void __adjust_heap(I first, ptrdiff_t hole, ptrdiff_t n,
     typename iterator_traits<I>::value_type value, L &less) <%
   ptrdiff_t top = hole, child = hole;
   while (child < (n - 1) / 2) <%
     child = 2 * (child + 1);
     if (less(*(first + child), *(first + (child - 1)))) --child;
     *(first + hole) = std::move(*(first + child)); hole = child; %>
   if ((n & 1) == 0 && child == (n - 2) / 2) <%
     child = 2 * (child + 1);
     *(first + hole) = std::move(*(first + (child - 1))); hole = child - 1; %>
   std::__push_heap(first, hole, top, std::move(value), less); %>
 template <class I, class L> void push_heap(I first, I last, L less) <%
   typename iterator_traits<I>::value_type value = std::move(*(last - 1));
   std::__push_heap(first, last - first - 1, 0, std::move(value), less); %>
 template <class I> void push_heap(I first, I last) <% std::push_heap(first, last, __less()); %>
 template <class I, class L> void __pop_heap(I first, I last, I result, L &less) <%
   typename iterator_traits<I>::value_type value = std::move(*result);
   *result = std::move(*first);
   std::__adjust_heap(first, 0, last - first, std::move(value), less); %>
 template <class I, class L> void pop_heap(I first, I last, L less) <%
   if (last - first > 1) <% --last; std::__pop_heap(first, last, last, less); %> %>
 template <class I> void pop_heap(I first, I last) <% std::pop_heap(first, last, __less()); %>
 template <class I, class L> void make_heap(I first, I last, L less) <%
   ptrdiff_t n = last - first;
   if (n < 2) return;
   for (ptrdiff_t parent = (n - 2) / 2;; --parent) <%
     typename iterator_traits<I>::value_type value = std::move(*(first + parent));
     std::__adjust_heap(first, parent, n, std::move(value), less);
     if (parent == 0) return; %> %>
 template <class I> void make_heap(I first, I last) <% std::make_heap(first, last, __less()); %>
 template <class I, class L> void sort_heap(I first, I last, L less) <%
   while (last - first > 1) <% --last; std::__pop_heap(first, last, last, less); %> %>
 template <class I> void sort_heap(I first, I last) <% std::sort_heap(first, last, __less()); %>
 template <class I, class L> bool is_heap(I first, I last, L less) <%
   for (ptrdiff_t i = 1; i < last - first; ++i) if (less(first[(i - 1) / 2], first[i]))
       return false;
   return true; %>
 template <class I> bool is_heap(I first, I last) <% return std::is_heap(first, last,
     __less()); %>
 template <class I, class L> void __linear_insert(I last, L &less) <%
   typename iterator_traits<I>::value_type value = std::move(*last);
   I next = last; --next;
   while (less(value, *next)) <% *last = std::move(*next); last = next; --next; %>
   *last = std::move(value); %>
 template <class I, class L> void __insertion_sort(I first, I last, L &less) <%
   if (first == last) return;
   for (I i = first + 1; i != last; ++i) <%
     if (less(*i, *first)) <%
       typename iterator_traits<I>::value_type value = std::move(*i);
       std::move_backward(first, i, i + 1); *first = std::move(value);
     %> else std::__linear_insert(i, less); %> %>
 template <class I, class L> void __median_first(I result, I a, I b, I c, L &less) <%
   if (less(*a, *b)) <%
     if (less(*b, *c)) std::iter_swap(result, b);
     else if (less(*a, *c)) std::iter_swap(result, c);
     else std::iter_swap(result, a);
   %> else if (less(*a, *c)) std::iter_swap(result, a);
   else if (less(*b, *c)) std::iter_swap(result, c);
   else std::iter_swap(result, b); %>
 template <class I, class L> I __cut(I first, I last, L &less) <%
   I middle = first + (last - first) / 2;
   std::__median_first(first, first + 1, middle, last - 1, less);
   I pivot = first; ++first;
   while (true) <%
     while (less(*first, *pivot)) ++first;
     --last;
     while (less(*pivot, *last)) --last;
     if (!(first < last)) return first;
     std::iter_swap(first, last); ++first; %> %>
 template <class I, class L> void __heap_select(I first, I middle, I last, L &less) <%
   std::make_heap(first, middle, less);
   for (I i = middle; i < last; ++i)
     if (less(*i, *first)) std::__pop_heap(first, middle, i, less); %>
 template <class I, class L> void partial_sort(I first, I middle, I last, L less) <%
   std::__heap_select(first, middle, last, less);
   std::sort_heap(first, middle, less); %>
 template <class I> void partial_sort(I first, I middle, I last) <%
   std::partial_sort(first, middle, last, __less()); %>
 template <class I, class L> void __sort_loop(I first, I last, ptrdiff_t depth, L &less) <%
   while (last - first > 16) <%
     if (depth == 0) <% std::partial_sort(first, last, last, less); return; %>
     --depth;
     I cut = std::__cut(first, last, less);
     std::__sort_loop(cut, last, depth, less);
     last = cut; %> %>
 template <class I, class L> void sort(I first, I last, L less) <%
   if (first == last) return;
   ptrdiff_t depth = 0;
   for (ptrdiff_t n = last - first; n > 1; n >>= 1) depth += 2;
   std::__sort_loop(first, last, depth, less);
   if (last - first > 16) <%
     std::__insertion_sort(first, first + 16, less);
     for (I i = first + 16; i != last; ++i) std::__linear_insert(i, less);
   %> else std::__insertion_sort(first, last, less); %>
 template <class I> void sort(I first, I last) <% std::sort(first, last, __less()); %>
 template <class I, class L> void nth_element(I first, I nth, I last, L less) <%
   if (first == last || nth == last) return;
   ptrdiff_t depth = 0;
   for (ptrdiff_t n = last - first; n > 1; n >>= 1) depth += 2;
   while (last - first > 3) <%
     if (depth == 0) <%
       std::__heap_select(first, nth + 1, last, less); std::iter_swap(first, nth); return; %>
     --depth;
     I cut = std::__cut(first, last, less);
     if (cut <= nth) first = cut; else last = cut; %>
   std::__insertion_sort(first, last, less); %>
 template <class I> void nth_element(I first, I nth, I last) <%
   std::nth_element(first, nth, last, __less()); %>
 template <class I, class T, class L> I lower_bound(I first, I last, const T &value, L less) <%
   ptrdiff_t n = std::distance(first, last);
   while (n > 0) <%
     I middle = std::next(first, n / 2);
     if (less(*middle, value)) <% first = ++middle; n = n - n / 2 - 1; %> else n = n / 2; %>
   return first; %>
 template <class I, class T> I lower_bound(I first, I last, const T &value) <%
   return std::lower_bound(first, last, value, __less()); %>
 template <class I, class T, class L> I upper_bound(I first, I last, const T &value, L less) <%
   ptrdiff_t n = std::distance(first, last);
   while (n > 0) <%
     I middle = std::next(first, n / 2);
     if (less(value, *middle)) n = n / 2; else <% first = ++middle; n = n - n / 2 - 1; %> %>
   return first; %>
 template <class I, class T> I upper_bound(I first, I last, const T &value) <%
   return std::upper_bound(first, last, value, __less()); %>
 template <class I, class T, class L>
 pair<I, I> equal_range(I first, I last, const T &value, L less) <%
   return pair<I, I>(std::lower_bound(first, last, value, less),
       std::upper_bound(first, last, value, less)); %>
 template <class I, class T> pair<I, I> equal_range(I first, I last, const T &value) <%
   return std::equal_range(first, last, value, __less()); %>
 template <class I, class T, class L>
 bool binary_search(I first, I last, const T &value, L less) <%
   first = std::lower_bound(first, last, value, less);
   return first != last && !less(value, *first); %>
 template <class I, class T> bool binary_search(I first, I last, const T &value) <%
   return std::binary_search(first, last, value, __less()); %>
 template <class I, class J, class K, class L>
 K merge(I first, I last, J other, J end, K target, L less) <%
   for (; first != last && other != end; ++target) <%
     if (less(*other, *first)) <% *target = *other; ++other; %>
     else <% *target = *first; ++first; %> %>
   return std::copy(other, end, std::copy(first, last, target)); %>
 template <class I, class J, class K> K merge(I first, I last, J other, J end, K target) <%
   return std::merge(first, last, other, end, target, __less()); %>
 template <class I, class L> void inplace_merge(I first, I middle, I last, L less) <%
   if (first == middle || middle == last) return;
   ptrdiff_t n = std::distance(first, middle), m = std::distance(middle, last);
   if (n + m == 2) <% if (less(*middle, *first)) std::iter_swap(first, middle); return; %>
   I a = first, b = middle;
   if (n > m) <% a = std::next(first, n / 2); b = std::lower_bound(middle, last, *a, less); %>
   else <% b = std::next(middle, m / 2); a = std::upper_bound(first, middle, *b, less); %>
   I center = std::rotate(a, middle, b);
   std::inplace_merge(first, a, center, less);
   std::inplace_merge(center, b, last, less); %>
 template <class I> void inplace_merge(I first, I middle, I last) <%
   std::inplace_merge(first, middle, last, __less()); %>
 template <class I, class L> void stable_sort(I first, I last, L less) <%
   ptrdiff_t n = std::distance(first, last);
   if (n < 15) <% std::__insertion_sort(first, last, less); return; %>
   I middle = first + n / 2;
   std::stable_sort(first, middle, less); std::stable_sort(middle, last, less);
   std::inplace_merge(first, middle, last, less); %>
 template <class I> void stable_sort(I first, I last) <% std::stable_sort(first, last,
     __less()); %>
 template <class I, class J, class L> bool includes(I first, I last, J other, J end, L less) <%
   for (; other != end; ++first) <%
     if (first == last || less(*other, *first)) return false;
     if (!less(*first, *other)) ++other; %>
   return true; %>
 template <class I, class J> bool includes(I first, I last, J other, J end) <%
   return std::includes(first, last, other, end, __less()); %>
 template <class I, class J, class K> K set_union(I first, I last, J other, J end, K target) <%
   for (; first != last && other != end; ++target) <%
     if (*first < *other) <% *target = *first; ++first; %>
     else if (*other < *first) <% *target = *other; ++other; %>
     else <% *target = *first; ++first; ++other; %> %>
   return std::copy(other, end, std::copy(first, last, target)); %>
 template <class I, class J, class K>
 K set_intersection(I first, I last, J other, J end, K target) <%
   while (first != last && other != end) <%
     if (*first < *other) ++first;
     else if (*other < *first) ++other;
     else <% *target = *first; ++first; ++other; ++target; %> %>
   return target; %>
 template <class I, class J, class K> K set_difference(I first, I last, J other, J end, K
     target) <%
   while (first != last && other != end) <%
     if (*first < *other) <% *target = *first; ++first; ++target; %>
     else <% if (!(*other < *first)) ++first; ++other; %> %>
   return std::copy(first, last, target); %>
 template <class I, class J, class K>
 K set_symmetric_difference(I first, I last, J other, J end, K target) <%
   while (first != last && other != end) <%
     if (*first < *other) <% *target = *first; ++first; ++target; %>
     else if (*other < *first) <% *target = *other; ++other; ++target; %>
     else <% ++first; ++other; %> %>
   return std::copy(other, end, std::copy(first, last, target)); %>
 template <class I, class L> I min_element(I first, I last, L less) <%
   if (first == last) return last;
   I best = first;
   while (++first != last) if (less(*first, *best)) best = first;
   return best; %>
 template <class I> I min_element(I first, I last) <%
   return std::min_element(first, last, __less()); %>
 template <class I, class L> I max_element(I first, I last, L less) <%
   if (first == last) return last;
   I best = first;
   while (++first != last) if (less(*best, *first)) best = first;
   return best; %>
 template <class I> I max_element(I first, I last) <%
   return std::max_element(first, last, __less()); %>
 template <class I> pair<I, I> minmax_element(I first, I last) <%
   I low = first, high = first;
   for (; first != last; ++first) <% if (*first < *low) low = first;
     if (!(*first < *high)) high = first; %>
   return pair<I, I>(low, high); %>
 template <class I, class L> bool next_permutation(I first, I last, L less) <%
   if (first == last) return false;
   I i = last;
   if (first == --i) return false;
   while (true) <%
     I next = i;
     if (less(*--i, *next)) <%
       I j = last;
       while (!less(*i, *--j)) <%%>
       std::iter_swap(i, j); std::reverse(next, last); return true; %>
     if (i == first) <% std::reverse(first, last); return false; %> %> %>
 template <class I> bool next_permutation(I first, I last) <%
   return std::next_permutation(first, last, __less()); %>
 template <class I, class L> bool prev_permutation(I first, I last, L less) <%
   if (first == last) return false;
   I i = last;
   if (first == --i) return false;
   while (true) <%
     I next = i;
     if (less(*next, *--i)) <%
       I j = last;
       while (!less(*--j, *i)) <%%>
       std::iter_swap(i, j); std::reverse(next, last); return true; %>
     if (i == first) <% std::reverse(first, last); return false; %> %> %>
 template <class I> bool prev_permutation(I first, I last) <%
   return std::prev_permutation(first, last, __less()); %>
 template <class I, class J> bool is_permutation(I first, I last, J other) <%
   J end = std::next(other, std::distance(first, last));
   for (I i = first; i != last; ++i)
     if (std::count(first, last, *i) != std::count(other, end, *i)) return false;
   return true; %>
 %>
"

/-- Sums over sequences. -/
def sums : Octets := "
 #include <iterator>
 namespace std <%
 template <class I, class T> T accumulate(I first, I last, T start) <%
   for (; first != last; ++first) start = start + *first;
   return start; %>
 template <class I, class T, class F> T accumulate(I first, I last, T start, F f) <%
   for (; first != last; ++first) start = f(start, *first);
   return start; %>
 #if __cplusplus >= 201703L
 template <class I, class T> T reduce(I first, I last, T start) <%
   return std::accumulate(first, last, start); %>
 template <class I, class T, class F> T reduce(I first, I last, T start, F f) <%
   return std::accumulate(first, last, start, f); %>
 template <class I> typename iterator_traits<I>::value_type reduce(I first, I last) <%
   return std::accumulate(first, last, typename iterator_traits<I>::value_type()); %>
 template <class T, class U> constexpr typename common_type<T, U>::type gcd(T m, U n) <%
   typename common_type<T, U>::type a = m < 0 ? -m : m, b = n < 0 ? -n : n;
   while (b != 0) <% typename common_type<T, U>::type c = a % b; a = b; b = c; %>
   return a; %>
 template <class T, class U> constexpr typename common_type<T, U>::type lcm(T m, U n) <%
   return m == 0 || n == 0 ? 0 : (m < 0 ? -m : m) / gcd(m, n) * (n < 0 ? -n : n); %>
 #endif
 template <class I, class J, class T> T inner_product(I first, I last, J other, T start) <%
   for (; first != last; ++first, ++other) start = start + *first * *other;
   return start; %>
 template <class I, class J, class T, class F, class G>
 T inner_product(I first, I last, J other, T start, F f, G g) <%
   for (; first != last; ++first, ++other) start = f(start, g(*first, *other));
   return start; %>
 template <class I, class J, class F> J partial_sum(I first, I last, J target, F f) <%
   if (first == last) return target;
   typename iterator_traits<I>::value_type total = *first;
   *target = total;
   while (++first != last) <% total = f(total, *first); *++target = total; %>
   return ++target; %>
 struct __add <% template <class T> T operator()(const T &a, const T &b) const <% return a +
     b; %> %>;
 template <class I, class J> J partial_sum(I first, I last, J target) <%
   return std::partial_sum(first, last, target, __add()); %>
 template <class I, class J> J adjacent_difference(I first, I last, J target) <%
   if (first == last) return target;
   typename iterator_traits<I>::value_type kept = *first;
   *target = kept;
   while (++first != last) <%
     typename iterator_traits<I>::value_type next = *first;
     *++target = next - kept; kept = next; %>
   return ++target; %>
 template <class I, class T> void iota(I first, I last, T value) <%
   for (; first != last; ++first, ++value) *first = value; %>
 %>
"

/-- The headers of algorithms. -/
def algorithmHeaders : List (Octets × Octets) :=
  [("algorithm", algorithms), ("numeric", sums)]

end QueryFoundry.Native.Headers
